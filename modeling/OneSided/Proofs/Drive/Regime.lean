import OneSided.Drive.Basic
import OneSided.Proofs.Space.Exact

/-! Regimes of drives in exact arithmetic. A drive is asked for the regime in which it would
need a reaction, and whether a reaction fits its speed. The two are answered apart from each
other. Main statement: the regime has the needed reaction clamped to the bounds of the drive,
that reaction fits the speed on whichever side of it the regime slips, and what fits within
a tolerance fits within every larger one. -/

namespace OneSided

namespace Regime

/-- The drive does not hold its speed, which is too high. -/
def IsAtLower {α : Type} (r : Regime α) : Prop := ∃ x, r = slippingAtLower x

/-- The drive does not hold its speed, which is too low. -/
def IsAtUpper {α : Type} (r : Regime α) : Prop := ∃ x, r = slippingAtUpper x

end Regime

/-! ### Reactions that fit a speed -/

/-- A drive between bounds may have the reaction `x` at the speed error `e`, up to a
tolerance: it holds its speed within the bounds, or it is too fast at the lower one, or too
slow at the upper one. -/
def Complementary (lower upper e x tol : ℝ) : Prop :=
  |e| ≤ tol ∧ lower - tol ≤ x ∧ x ≤ upper + tol ∨
    tol < e ∧ |x - lower| ≤ tol ∨ e < -tol ∧ |x - upper| ≤ tol

namespace Complementary

variable {lower upper e x tol tol' : ℝ}

/-- Without tolerance these are the cases as they are documented. -/
theorem zero_iff :
    Complementary lower upper e x 0 ↔
      lower ≤ x ∧ x ≤ upper ∧ e = 0 ∨ 0 < e ∧ x = lower ∨ e < 0 ∧ x = upper := by
  simp only [Complementary, abs_nonpos_iff, sub_zero, add_zero, neg_zero, sub_eq_zero]
  rw [and_comm (a := e = 0), and_assoc]

/-- A reaction near one of two ordered bounds is not far outside of them. -/
theorem within_of_near (hb : lower ≤ upper) (h : |x - lower| ≤ tol ∨ |x - upper| ≤ tol) :
    lower - tol ≤ x ∧ x ≤ upper + tol := by
  rcases h with h | h <;> obtain ⟨hlo, hup⟩ := abs_le.1 h <;> constructor <;> linarith

/-- A larger tolerance may turn a drive that slips into one that holds its speed. -/
theorem mono (hb : lower ≤ upper) (ht : 0 ≤ tol) (htol : tol ≤ tol')
    (h : Complementary lower upper e x tol) : Complementary lower upper e x tol' := by
  rcases h with ⟨he, hlo, hup⟩ | ⟨he, hx⟩ | ⟨he, hx⟩
  · exact .inl ⟨he.trans htol, by linarith, by linarith⟩
  · rcases lt_or_ge tol' e with hfast | hslow
    · exact .inr (.inl ⟨hfast, hx.trans htol⟩)
    · have hhold : |e| ≤ tol' := abs_le.2 ⟨by linarith, hslow⟩
      exact .inl ⟨hhold, within_of_near hb (.inl (hx.trans htol))⟩
  · rcases lt_or_ge e (-tol') with hslow | hfast
    · exact .inr (.inr ⟨hslow, hx.trans htol⟩)
    · have hhold : |e| ≤ tol' := abs_le.2 ⟨hfast, by linarith⟩
      exact .inl ⟨hhold, within_of_near hb (.inr (hx.trans htol))⟩

end Complementary

/-! ### What a drive answers -/

namespace BoundedDrive

variable {κ : Type} [BoundedDrive κ ℝ] [Grain] {d : κ} {s : State ℝ} {lower upper : ℝ}

/-- A drive with ordered bounds slips at one of them, or it holds. -/
theorem resolve_cases (hd : bounds d s = .ok (lower, upper)) (hb : lower ≤ upper) (h : ℝ) :
    h < lower ∧ resolve d s h = .ok (.slippingAtLower lower) ∨
    (lower ≤ h ∧ h ≤ upper) ∧ resolve d s h = .ok (.holding h) ∨
    upper < h ∧ resolve d s h = .ok (.slippingAtUpper upper) := by
  simp only [resolve, hd, bind, Except.bind, not_true_eq_false, if_false, hb]
  rcases lt_or_ge h lower with hlo | hlo
  · exact .inl ⟨hlo, if_pos hlo⟩
  · rw [if_neg (not_lt.2 hlo)]
    rcases lt_or_ge upper h with hup | hup
    · exact .inr (.inr ⟨hup, if_pos hup⟩)
    · exact .inr (.inl ⟨⟨hlo, hup⟩, if_neg (not_lt.2 hup)⟩)

theorem resolve_of_mem (hd : bounds d s = .ok (lower, upper)) {h : ℝ} (hlo : lower ≤ h)
    (hup : h ≤ upper) : resolve d s h = .ok (.holding h) := by
  rcases resolve_cases hd (hlo.trans hup) h with ⟨hlt, -⟩ | ⟨-, hr⟩ | ⟨hlt, -⟩
  · exact absurd hlo (not_le.2 hlt)
  · exact hr
  · exact absurd hup (not_le.2 hlt)

/-- Two comparisons with the tolerance tell the three cases apart. -/
theorem satisfies_iff (hd : bounds d s = .ok (lower, upper)) {e : ℝ}
    (he : speedError d s = .ok e) {tol : ℝ} (ht : 0 ≤ tol) (x : ℝ) :
    ∃ b, satisfies d s x tol = .ok b ∧ (b = true ↔ Complementary lower upper e x tol) := by
  simp only [satisfies, hd, he, bind, Except.bind]
  split_ifs with hfast hslow
  · refine ⟨_, rfl, decide_eq_true_iff.trans ⟨fun hx => .inr (.inl ⟨hfast, hx⟩), ?_⟩⟩
    rintro (⟨hhold, -⟩ | ⟨-, hx⟩ | ⟨hslow, -⟩)
    · exact absurd (abs_le.1 hhold).2 (not_le.2 hfast)
    · exact hx
    -- too fast and too slow at once, by a tolerance that is not negative
    · linarith
  · refine ⟨_, rfl, decide_eq_true_iff.trans ⟨fun hx => .inr (.inr ⟨hslow, hx⟩), ?_⟩⟩
    rintro (⟨hhold, -⟩ | ⟨hfast', -⟩ | ⟨-, hx⟩)
    · exact absurd (abs_le.1 hhold).1 (not_le.2 hslow)
    · exact absurd hfast' hfast
    · exact hx
  · have hhold : |e| ≤ tol := abs_le.2 ⟨not_lt.1 hslow, not_lt.1 hfast⟩
    refine ⟨_, rfl, decide_eq_true_iff.trans ⟨fun hx => .inl ⟨hhold, hx⟩, ?_⟩⟩
    rintro (⟨-, hx⟩ | ⟨hfast', -⟩ | ⟨hslow', -⟩)
    · exact hx
    · exact absurd hfast' hfast
    · exact absurd hslow' hslow

theorem satisfies_eq_true_iff (hd : bounds d s = .ok (lower, upper)) {e : ℝ}
    (he : speedError d s = .ok e) {tol : ℝ} (ht : 0 ≤ tol) (x : ℝ) :
    satisfies d s x tol = .ok true ↔ Complementary lower upper e x tol := by
  obtain ⟨b, hb, hiff⟩ := satisfies_iff hd he ht x
  rw [hb, Except.ok.injEq, hiff]

/-- The regime has the clamped reaction. A regime that slips has the bound that it slips at. -/
theorem exists_resolve (hd : bounds d s = .ok (lower, upper)) (hb : lower ≤ upper) (h : ℝ) :
    ∃ r, resolve d s h = .ok r ∧ r.reaction = max lower (min h upper) ∧
      (r.isHolding = true ↔ lower ≤ h ∧ h ≤ upper) ∧
      (r.IsAtLower → r.reaction = lower) ∧ (r.IsAtUpper → r.reaction = upper) := by
  rcases resolve_cases hd hb h with ⟨hlt, hr⟩ | ⟨hmem, hr⟩ | ⟨hlt, hr⟩
  · refine ⟨_, hr, ?_, ?_, fun _ => rfl, nofun⟩
    · exact (max_eq_left ((min_le_left h upper).trans hlt.le)).symm
    · exact iff_of_false Bool.false_ne_true fun hmem => absurd hmem.1 (not_le.2 hlt)
  · refine ⟨_, hr, ?_, iff_of_true rfl hmem, nofun, nofun⟩
    change h = max lower (min h upper)
    rw [min_eq_left hmem.2, max_eq_right hmem.1]
  · refine ⟨_, hr, ?_, ?_, nofun, fun _ => rfl⟩
    · change upper = max lower (min h upper)
      rw [min_eq_right hlt.le, max_eq_right hb]
    · exact iff_of_false Bool.false_ne_true fun hmem => absurd hmem.2 (not_le.2 hlt)

end BoundedDrive

/-- The regime and the reactions of a drive with ordered bounds, in exact arithmetic. The
regime has the needed reaction clamped to the bounds, holds exactly if that needs no clamping,
and its reaction is one that the drive holds with. A reaction fits the speed within a tolerance
exactly if it is complementary to the speed error up to it, without tolerance as it is
documented. The reaction of the regime fits as soon as the speed is the one to hold, or
misses it to the side that the regime slips to, and what fits within a tolerance fits within
every larger one. -/
theorem reaction_clamped {κ : Type} [BoundedDrive κ ℝ] [Grain] (d : κ) (s : State ℝ)
    {lower upper : ℝ} (hd : BoundedDrive.bounds d s = .ok (lower, upper)) (hb : lower ≤ upper)
    (h : ℝ) :
    ∃ r, BoundedDrive.resolve d s h = .ok r ∧ r.reaction = max lower (min h upper) ∧
      (r.isHolding = true ↔ lower ≤ h ∧ h ≤ upper) ∧
      BoundedDrive.resolve d s r.reaction = .ok (.holding r.reaction) ∧
      ∀ e, BoundedDrive.speedError d s = .ok e →
        (∀ tol, 0 ≤ tol → ∀ x, ∃ b, BoundedDrive.satisfies d s x tol = .ok b ∧
          (b = true ↔ Complementary lower upper e x tol)) ∧
        (∀ x, BoundedDrive.satisfies d s x 0 = .ok true ↔
          lower ≤ x ∧ x ≤ upper ∧ e = 0 ∨ 0 < e ∧ x = lower ∨ e < 0 ∧ x = upper) ∧
        (∀ tol, 0 ≤ tol → |e| ≤ tol ∨ r.IsAtLower ∧ tol < e ∨ r.IsAtUpper ∧ e < -tol →
          BoundedDrive.satisfies d s r.reaction tol = .ok true) ∧
        ∀ x tol tol', 0 ≤ tol → tol ≤ tol' →
          BoundedDrive.satisfies d s x tol = .ok true →
            BoundedDrive.satisfies d s x tol' = .ok true := by
  obtain ⟨r, hr, hclamp, hholds, hatLower, hatUpper⟩ := BoundedDrive.exists_resolve hd hb h
  have hlo : lower ≤ r.reaction := hclamp ▸ le_max_left _ _
  have hup : r.reaction ≤ upper := hclamp ▸ max_le hb (min_le_right _ _)
  refine ⟨r, hr, hclamp, hholds, BoundedDrive.resolve_of_mem hd hlo hup,
    fun e he => ⟨?_, ?_, ?_, ?_⟩⟩
  · exact fun tol ht x => BoundedDrive.satisfies_iff hd he ht x
  · exact fun x => (BoundedDrive.satisfies_eq_true_iff hd he le_rfl x).trans Complementary.zero_iff
  · intro tol ht hside
    rw [BoundedDrive.satisfies_eq_true_iff hd he ht]
    rcases hside with hhold | ⟨hr, hfast⟩ | ⟨hr, hslow⟩
    · exact .inl ⟨hhold, by linarith, by linarith⟩
    · exact .inr (.inl ⟨hfast, by rwa [hatLower hr, sub_self, abs_zero]⟩)
    · exact .inr (.inr ⟨hslow, by rwa [hatUpper hr, sub_self, abs_zero]⟩)
  · intro x tol tol' ht htol hfits
    rw [BoundedDrive.satisfies_eq_true_iff hd he (ht.trans htol)]
    rw [BoundedDrive.satisfies_eq_true_iff hd he ht] at hfits
    exact hfits.mono hb ht htol

/-- A motor at half of its no-load speed has half of its torque left. Asked for more, it slips
at the upper bound; within a tolerance that takes its speed for the one to hold, the reaction
that it then has still fits. -/
theorem reaction_clamped_of_motor :
    let _ : Grain := ⟨2⁻¹ ^ 52⟩
    let body : Mobilizer := ⟨⟨1⟩, 0, 1⟩
    let motor : Motor ℝ := ⟨body, 0, 10, some 4, ⟨⟨0⟩, 0, 3⟩, none⟩
    let t : Topology := ⟨[⟨Handle.ground, 0, 0⟩, body], 1, [1]⟩
    let s : State ℝ := (t.allocate.setSpeed 0 2).state
    BoundedDrive.bounds motor s = .ok (-5, 5) ∧ BoundedDrive.speedError motor s = .ok (-1) ∧
      BoundedDrive.resolve motor s 7 = .ok (.slippingAtUpper 5) ∧
      BoundedDrive.resolve motor s 5 = .ok (.holding 5) ∧
      BoundedDrive.satisfies motor s 5 0 = .ok true ∧
      BoundedDrive.satisfies motor s 5 1 = .ok true := by
  intro _ body motor t s
  have hd : BoundedDrive.bounds motor s = .ok (-5, 5) := by
    have htorque : motor.torqueAt 4 2 = 5 := by
      have hshare : 1 - |(2 : ℝ)| / 4 = 1 / 2 := by norm_num
      change 10 * (if 0 < 1 - |(2 : ℝ)| / 4 then 1 - |(2 : ℝ)| / 4 else 0) = 5
      rw [hshare]
      norm_num
    change Except.ok (-motor.torqueAt 4 2, motor.torqueAt 4 2) = _
    rw [htorque]
  have he : BoundedDrive.speedError motor s = .ok (-1) := by
    change Except.ok ((2 : ℝ) - 3) = _
    norm_num
  have hr : BoundedDrive.resolve motor s 7 = .ok (.slippingAtUpper 5) := by
    rcases BoundedDrive.resolve_cases hd (by norm_num) 7 with ⟨h, -⟩ | ⟨h, -⟩ | ⟨-, hr⟩
    · norm_num at h
    · norm_num at h
    · exact hr
  obtain ⟨r, hr', -, -, hagain, hfits⟩ := reaction_clamped motor s hd (by norm_num) 7
  obtain rfl : .slippingAtUpper 5 = r := Except.ok.inj (hr.symm.trans hr')
  obtain ⟨-, -, hslow, hmono⟩ := hfits (-1) he
  have hexact : BoundedDrive.satisfies motor s 5 0 = .ok true :=
    hslow 0 le_rfl (.inr (.inr ⟨⟨5, rfl⟩, by norm_num⟩))
  exact ⟨hd, he, hr, hagain, hexact, hmono 5 0 1 le_rfl zero_le_one hexact⟩

end OneSided
