import OneSided.Proofs.Space.Exact

/-! Scalars that are compared as numbers are. What is not a number is comparable with
nothing, itself included, and all numbers stand in one line. A finite number differs from
itself by zero. Main statement: this is so in both machine precisions and in exact
arithmetic. -/

namespace OneSided

/-- A value that is not a number fails every comparison. -/
def Scalar.IsNumber {α : Type} [Scalar α] (x : α) : Prop := x ≤ x

/-- The numbers among some scalars are linearly preordered. -/
class Scalar.Ordered (α : Type) [Scalar α] : Prop where
  isNumber_of_le {x y : α} : x ≤ y → IsNumber x ∧ IsNumber y
  le_trans {x y z : α} : x ≤ y → y ≤ z → x ≤ z
  le_total {x y : α} : IsNumber x → IsNumber y → x ≤ y ∨ y ≤ x
  lt_iff {x y : α} : x < y ↔ x ≤ y ∧ ¬y ≤ x
  isNumber_of_isFinite {x : α} : isFinite x = true → IsNumber x
  zero_le_one : (0 : α) ≤ 1

/-- A finite number less itself is zero. -/
class Scalar.Cancels (α : Type) [Scalar α] : Prop where
  sub_self {x : α} : isFinite x = true → x - x = 0

namespace Scalar

section Order

variable {α : Type} [Scalar α] [Ordered α] {x y z : α}

theorem zero_le_zero : (0 : α) ≤ 0 := (Ordered.isNumber_of_le Ordered.zero_le_one).1

theorem not_le_of_lt (h : x < y) : ¬y ≤ x := (Ordered.lt_iff.1 h).2

theorem lt_of_not_le (hx : IsNumber x) (hy : IsNumber y) (h : ¬x ≤ y) : y < x := by
  rcases Ordered.le_total hx hy with hxy | hyx
  · exact absurd hxy h
  · exact Ordered.lt_iff.2 ⟨hyx, h⟩

theorem le_of_not_lt (hx : IsNumber x) (hy : IsNumber y) (h : ¬y < x) : x ≤ y := by
  by_contra hxy
  exact h (lt_of_not_le hx hy hxy)

theorem lt_of_le_of_lt (hxy : x ≤ y) (hyz : y < z) : x < z := by
  obtain ⟨hle, hnot⟩ := Ordered.lt_iff.1 hyz
  exact Ordered.lt_iff.2 ⟨Ordered.le_trans hxy hle, fun hzx => hnot (Ordered.le_trans hzx hxy)⟩

/-- What is not at least zero is negative or not a number. -/
theorem not_zero_le_iff : ¬0 ≤ x ↔ x < 0 ∨ ¬IsNumber x := by
  constructor
  · intro h
    by_cases hx : IsNumber x
    · exact .inl (lt_of_not_le zero_le_zero hx h)
    · exact .inr hx
  · rintro (h | h) hle
    · exact not_le_of_lt h hle
    · exact h (Ordered.isNumber_of_le hle).2

end Order

/-! ### Scalars with places in a line -/

section Places

variable {α γ : Type} [Scalar α] [LinearOrder γ] {place? : α → Option γ}

theorem isNumber_iff_place
    (le_iff : ∀ x y, x ≤ y ↔ ∃ j k, place? x = some j ∧ place? y = some k ∧ j ≤ k) (x : α) :
    IsNumber x ↔ ∃ j, place? x = some j := by
  rw [IsNumber, le_iff]
  constructor
  · rintro ⟨j, -, hj, -⟩
    exact ⟨j, hj⟩
  · rintro ⟨j, hj⟩
    exact ⟨j, j, hj, hj, le_refl j⟩

/-- Scalars are ordered if they are compared by their places in a line. -/
theorem Ordered.of_place
    (le_iff : ∀ x y, x ≤ y ↔ ∃ j k, place? x = some j ∧ place? y = some k ∧ j ≤ k)
    (lt_iff : ∀ x y, x < y ↔ ∃ j k, place? x = some j ∧ place? y = some k ∧ j < k)
    (finite : ∀ x, isFinite x = true → ∃ j, place? x = some j) (zero_le_one : (0 : α) ≤ 1) :
    Ordered α where
  isNumber_of_le {x y} hxy := by
    obtain ⟨j, k, hj, hk, -⟩ := (le_iff x y).1 hxy
    exact ⟨(isNumber_iff_place le_iff x).2 ⟨j, hj⟩, (isNumber_iff_place le_iff y).2 ⟨k, hk⟩⟩
  le_trans {x y z} hxy hyz := by
    obtain ⟨i, j, hi, hj, hij⟩ := (le_iff x y).1 hxy
    obtain ⟨j', k, hj', hk, hjk⟩ := (le_iff y z).1 hyz
    cases hj.symm.trans hj'
    exact (le_iff x z).2 ⟨i, k, hi, hk, hij.trans hjk⟩
  le_total {x y} hx hy := by
    obtain ⟨j, hj⟩ := (isNumber_iff_place le_iff x).1 hx
    obtain ⟨k, hk⟩ := (isNumber_iff_place le_iff y).1 hy
    rcases LinearOrder.le_total j k with hjk | hkj
    · exact .inl ((le_iff x y).2 ⟨j, k, hj, hk, hjk⟩)
    · exact .inr ((le_iff y x).2 ⟨k, j, hk, hj, hkj⟩)
  lt_iff {x y} := by
    rw [lt_iff, le_iff, le_iff]
    constructor
    · rintro ⟨j, k, hj, hk, hjk⟩
      refine ⟨⟨j, k, hj, hk, hjk.le⟩, ?_⟩
      rintro ⟨k', j', hk', hj', hkj⟩
      cases hj.symm.trans hj'
      cases hk.symm.trans hk'
      exact absurd hjk (not_lt_of_ge hkj)
    · rintro ⟨⟨j, k, hj, hk, -⟩, hnot⟩
      exact ⟨j, k, hj, hk, lt_of_not_ge fun hkj => hnot ⟨k, j, hk, hj, hkj⟩⟩
  isNumber_of_isFinite {x} hx := (isNumber_iff_place le_iff x).2 (finite x hx)
  zero_le_one := zero_le_one

end Places

end Scalar

/-! ### Machine precision -/

section Machine

open Float.Model

/-- Where a float stands in the line of numbers: by its sign and class, then by its
exponent, then by its mantissa. -/
def floatPlace? : UnpackedFloat → Option (ℤ ×ₗ ℤ ×ₗ ℤ)
  | .notANumber => none
  | .infinity .negative => some (toLex (-2, toLex (0, 0)))
  | .finite .negative mantissa exponent _ => some (toLex (-1, toLex (-exponent, -(mantissa : ℤ))))
  | .zero _ => some (toLex (0, toLex (0, 0)))
  | .finite .positive mantissa exponent _ => some (toLex (1, toLex (exponent, (mantissa : ℤ))))
  | .infinity .positive => some (toLex (2, toLex (0, 0)))

theorem compare_natCast (m n : ℕ) : compare (m : ℤ) (n : ℤ) = compare m n := by
  rw [← cmp_eq_compare, ← cmp_eq_compare]
  exact Nat.strictMono_cast.cmp_map_eq m n

theorem compare_neg_neg (x y : ℤ) : compare (-x) (-y) = (compare x y).swap := by
  rw [← cmp_eq_compare, ← cmp_eq_compare, cmp_swap]
  have h : StrictAnti fun x : ℤ => -x := fun _ _ => Int.neg_lt_neg
  exact h.cmp_map_eq x y

theorem compare_toLex (i i' j j' k k' : ℤ) :
    compare (toLex (i, toLex (j, k))) (toLex (i', toLex (j', k'))) =
      (compare i i').then ((compare j j').then (compare k k')) := rfl

theorem compare_eq_places (a b : UnpackedFloat) :
    a.compare b = (floatPlace? a).bind fun j => (floatPlace? b).map fun k => compare j k := by
  -- Only two finite floats of one sign are compared by more than sign and class.
  rcases a with (_ | _) | _ | _ | ⟨_ | _, m, e, hm⟩ <;>
    rcases b with (_ | _) | _ | _ | ⟨_ | _, n, d, hn⟩ <;> try rfl
  case finite.negative.finite.negative =>
    change _ = some (compare (toLex ((-1 : ℤ), toLex (-e, -(m : ℤ))))
      (toLex ((-1 : ℤ), toLex (-d, -(n : ℤ)))))
    rw [compare_toLex, compare_neg_neg e, compare_neg_neg m, compare_natCast,
      ← Ordering.swap_then]
    rfl
  case finite.positive.finite.positive =>
    change _ = some (compare (toLex ((1 : ℤ), toLex (e, (m : ℤ))))
      (toLex ((1 : ℤ), toLex (d, (n : ℤ)))))
    rw [compare_toLex, compare_natCast]
    rfl

theorem float_le_iff (a b : UnpackedFloat) :
    a.le b = true ↔ ∃ j k, floatPlace? a = some j ∧ floatPlace? b = some k ∧ j ≤ k := by
  have isLE (j k : ℤ ×ₗ ℤ ×ₗ ℤ) : (compare j k).isLE = true ↔ j ≤ k := by
    rw [← compare_le_iff_le]
    cases compare j k <;> decide
  rw [UnpackedFloat.le, compare_eq_places]
  cases floatPlace? a <;> cases floatPlace? b <;> simp [isLE]

theorem float_lt_iff (a b : UnpackedFloat) :
    a.lt b = true ↔ ∃ j k, floatPlace? a = some j ∧ floatPlace? b = some k ∧ j < k := by
  rw [UnpackedFloat.lt, compare_eq_places]
  cases floatPlace? a <;> cases floatPlace? b <;> simp [compare_lt_iff_lt]

theorem exists_floatPlace_iff (a : UnpackedFloat) :
    (∃ j, floatPlace? a = some j) ↔ a.isNaN = false := by
  rcases a with (_ | _) | _ | _ | ⟨_ | _, m, e, hm⟩ <;> simp [floatPlace?, UnpackedFloat.isNaN]

theorem exists_floatPlace_of_isFinite {a : UnpackedFloat} (h : a.isFinite = true) :
    ∃ j, floatPlace? a = some j := by
  rw [exists_floatPlace_iff]
  cases a with
  | infinity | notANumber => cases h
  | zero | finite => rfl

theorem le_iff_floatPlace (x y : Float) : x ≤ y ↔ ∃ j k,
    floatPlace? x.toModel.unpack = some j ∧ floatPlace? y.toModel.unpack = some k ∧ j ≤ k :=
  decide_eq_true_iff.trans (float_le_iff _ _)

theorem le_iff_float32Place (x y : Float32) : x ≤ y ↔ ∃ j k,
    floatPlace? x.toModel.unpack = some j ∧ floatPlace? y.toModel.unpack = some k ∧ j ≤ k :=
  decide_eq_true_iff.trans (float_le_iff _ _)

instance : Scalar.Ordered Float :=
  .of_place le_iff_floatPlace (fun _ _ => decide_eq_true_iff.trans (float_lt_iff _ _))
    (fun _ => exists_floatPlace_of_isFinite) (by decide)

instance : Scalar.Ordered Float32 :=
  .of_place le_iff_float32Place (fun _ _ => decide_eq_true_iff.trans (float_lt_iff _ _))
    (fun _ => exists_floatPlace_of_isFinite) (by decide)

/-- Rounding does not get in the way, as nothing is left to round. -/
theorem float_sub_self {a : UnpackedFloat} (h : a.isFinite = true) (format : Format) :
    UnpackedFloat.sub format a a = .zero .positive := by
  cases a with
  | infinity | notANumber => cases h
  | zero s => cases s <;> rfl
  | finite s m e hm => simp [UnpackedFloat.sub, UnpackedFloat.normalize]

instance : Scalar.Cancels Float where
  sub_self {x} h := by
    change Float.ofModel (.pack (UnpackedFloat.sub .binary64 x.toModel.unpack x.toModel.unpack)) = 0
    rw [float_sub_self h]
    decide

instance : Scalar.Cancels Float32 where
  sub_self {x} h := by
    change
      Float32.ofModel (.pack (UnpackedFloat.sub .binary32 x.toModel.unpack x.toModel.unpack)) = 0
    rw [float_sub_self h]
    decide

theorem isNumber_float (x : Float) : Scalar.IsNumber x ↔ x.isNaN = false :=
  (Scalar.isNumber_iff_place le_iff_floatPlace x).trans (exists_floatPlace_iff _)

theorem isNumber_float32 (x : Float32) : Scalar.IsNumber x ↔ x.isNaN = false :=
  (Scalar.isNumber_iff_place le_iff_float32Place x).trans (exists_floatPlace_iff _)

end Machine

/-! ### Exact arithmetic -/

instance [Grain] : Scalar.Ordered ℝ :=
  @Scalar.Ordered.of_place ℝ ℝ _ _ some (fun _ _ => by simp) (fun _ _ => by simp)
    (fun x _ => ⟨x, rfl⟩) (zero_le_one (α := ℝ))

instance [Grain] : Scalar.Cancels ℝ where
  sub_self _ := sub_self _

end OneSided
