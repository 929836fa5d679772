import Mathlib
import OneSided.Lock.Ball

/-! The layout of the multipliers at one instant. The blocks of the enabled constraints
follow one another in the order of registration, from the first multiplier to the last
one, and a handle only names a multiplier of the block that it was asked from. -/

namespace OneSided

variable {α : Type}

/-! ### Blocks in a row -/

/-- The blocks follow one another from `first` to `last` without gap. -/
def Tiles : Nat → List Block → Nat → Prop
  | first, [], last => first = last
  | first, b :: bs, last => b.start = first ∧ Tiles b.stop bs last

theorem Tiles.bounds {first last : Nat} {bs : List Block} (h : Tiles first bs last) :
    first ≤ last ∧ ∀ b ∈ bs, first ≤ b.start ∧ b.stop ≤ last := by
  induction bs generalizing first with
  | nil => exact ⟨Nat.le_of_eq h, by simp⟩
  | cons b bs ih =>
    obtain ⟨rfl, ht⟩ := h
    have hb : b.start ≤ b.stop := Nat.le_add_right ..
    obtain ⟨hl, hbs⟩ := ih ht
    refine ⟨Nat.le_trans hb hl, fun c hc => ?_⟩
    rcases List.mem_cons.1 hc with rfl | hc
    · exact ⟨Nat.le_refl _, hl⟩
    · exact ⟨Nat.le_trans hb (hbs c hc).1, (hbs c hc).2⟩

theorem Tiles.pairwise {first last : Nat} {bs : List Block} (h : Tiles first bs last) :
    bs.Pairwise fun a b => a.stop ≤ b.start := by
  induction bs generalizing first with
  | nil => exact .nil
  | cons b bs ih => exact .cons (fun c hc => (h.2.bounds.2 c hc).1) (ih h.2)

theorem Tiles.exists_mem {first last k : Nat} {bs : List Block} (h : Tiles first bs last)
    (hf : first ≤ k) (hl : k < last) : ∃ b ∈ bs, b.start ≤ k ∧ k < b.stop := by
  induction bs generalizing first with
  | nil =>
    have : first = last := h
    omega
  | cons b bs ih =>
    obtain ⟨rfl, ht⟩ := h
    by_cases hk : k < b.stop
    · exact ⟨b, List.mem_cons_self, hf, hk⟩
    · obtain ⟨c, hc, hck⟩ := ih ht (by omega)
      exact ⟨c, List.mem_cons_of_mem _ hc, hck⟩

theorem Tiles.append {first middle last : Nat} {xs ys : List Block} (hx : Tiles first xs middle)
    (hy : Tiles middle ys last) : Tiles first (xs ++ ys) last := by
  induction xs generalizing first with
  | nil =>
    cases hx
    exact hy
  | cons b xs ih => exact ⟨hx.1, ih hx.2⟩

/-! ### The blocks of some slots -/

namespace Slot

/-- How many multipliers a slot takes at present. -/
def taken (a : Slot α) : Nat := if a.enabled then a.size else 0

theorem total_eq_sum (slots : List (Slot α)) : total slots = (slots.map taken).sum := by
  rw [total, ← List.sum_eq_foldl_nat]
  induction slots with
  | nil => rfl
  | cons a slots ih => by_cases h : a.enabled <;> simp [taken, h, ih]

@[simp] theorem total_cons (a : Slot α) (slots : List (Slot α)) :
    total (a :: slots) = a.taken + total slots := by
  simp [total_eq_sum]

theorem total_le_sum (slots : List (Slot α)) : total slots ≤ (slots.map (·.size)).sum := by
  rw [total_eq_sum]
  induction slots with
  | nil => simp
  | cons a slots ih =>
    have ha : a.taken ≤ a.size := by unfold taken; split <;> omega
    simp only [List.map_cons, List.sum_cons]
    omega

/-- What the constraints of some slots are told, when their blocks begin at `start`. -/
def blocksFrom : Nat → List (Slot α) → List (Option Block)
  | _, [] => []
  | start, a :: slots =>
    (if a.enabled then some ⟨start, a.size⟩ else none) :: blocksFrom (start + a.taken) slots

theorem getElem?_blocksFrom (slots : List (Slot α)) (start i : Nat) :
    (blocksFrom start slots)[i]? = slots[i]?.map fun a =>
      if a.enabled then some ⟨start + total (slots.take i), a.size⟩ else none := by
  induction slots generalizing start i with
  | nil => simp [blocksFrom]
  | cons a slots ih =>
    cases i with
    | zero => simp [blocksFrom, total]
    | succ i => simp [blocksFrom, ih, Nat.add_assoc]

@[simp] theorem length_blocksFrom (slots : List (Slot α)) (start : Nat) :
    (blocksFrom start slots).length = slots.length := by
  induction slots generalizing start with
  | nil => rfl
  | cons a slots ih => simp [blocksFrom, ih]

theorem tiles_blocksFrom (slots : List (Slot α)) (start : Nat) :
    Tiles start (blocksFrom start slots).reduceOption (start + total slots) := by
  induction slots generalizing start with
  | nil => simp [blocksFrom, Tiles, total]
  | cons a slots ih =>
    have ht := ih (start + a.taken)
    rw [total_cons, ← Nat.add_assoc]
    by_cases h : a.enabled
    · simp only [blocksFrom, h, if_true, List.reduceOption_cons_of_some]
      refine ⟨rfl, ?_⟩
      simpa [Block.stop, taken, h] using ht
    · simpa [blocksFrom, taken, h] using ht

theorem isSome_blocksFrom (slots : List (Slot α)) (start : Nat) :
    (blocksFrom start slots).map Option.isSome = slots.map (·.enabled) := by
  induction slots generalizing start with
  | nil => rfl
  | cons a slots ih => cases h : a.enabled <;> simp [blocksFrom, h, ih]

end Slot

/-! ### What a constraint is told -/

namespace State

variable {s : State α} {c : Handle .constraint}

/-- The switches of the constraints, in the order of registration. -/
def flags (s : State α) : List Bool := s.slots.map (·.enabled)

/-- How many multipliers each constraint takes while it is enabled. -/
def sizes (s : State α) : List Nat := s.slots.map (·.size)

/-- What the constraints are told of their blocks, in the order of registration. -/
def blocks (s : State α) : List (Option Block) := Slot.blocksFrom 0 s.slots

theorem slot_eq_ok {a : Slot α} : s.slot c = .ok a ↔ s.slots[c.toNat]? = some a := by
  unfold slot Fault.fetch
  cases s.slots[c.toNat]? <;> simp

theorem isEnabled_eq_ok {e : Bool} :
    s.isEnabled c = .ok e ↔ s.flags[c.toNat]? = some e := by
  unfold isEnabled slot Fault.fetch flags
  rw [List.getElem?_map]
  cases s.slots[c.toNat]? <;> simp [bind, Except.bind, pure, Except.pure]

theorem multiplierBlock_of_stale (h : s.stale = true) : s.multiplierBlock c = .ok none := by
  simp [multiplierBlock, h]

theorem multiplierBlock_of_fresh (h : s.stale = false) {o : Option Block} :
    s.multiplierBlock c = .ok o ↔ s.blocks[c.toNat]? = some o := by
  rw [blocks, Slot.getElem?_blocksFrom]
  unfold multiplierBlock slot Fault.fetch
  cases ha : s.slots[c.toNat]? with
  | none => simp [h, bind, Except.bind]
  | some a => by_cases he : a.enabled <;> simp [h, he, bind, Except.bind]

theorem tiles_blocks (s : State α) : Tiles 0 s.blocks.reduceOption s.numMultipliers := by
  have h := Slot.tiles_blocksFrom s.slots 0
  rwa [Nat.zero_add] at h

theorem isSome_blocks (s : State α) : s.blocks.map Option.isSome = s.flags :=
  Slot.isSome_blocksFrom s.slots 0

theorem multiplierBlock_of_disabled (h : s.isEnabled c = .ok false) :
    s.multiplierBlock c = .ok none := by
  cases hs : s.stale with
  | true => exact multiplierBlock_of_stale hs
  | false =>
    rw [isEnabled_eq_ok, ← isSome_blocks, List.getElem?_map] at h
    obtain ⟨o, ho, hsome⟩ := Option.map_eq_some_iff.1 h
    rw [Option.isSome_eq_false_iff, Option.isNone_iff_eq_none] at hsome
    exact (multiplierBlock_of_fresh hs).2 (hsome ▸ ho)

theorem size_of_blocks {i : Nat} {b : Block} (h : s.blocks[i]? = some (some b)) :
    s.sizes[i]? = some b.size := by
  rw [blocks, Slot.getElem?_blocksFrom] at h
  rw [sizes, List.getElem?_map]
  cases ha : s.slots[i]? with
  | none => simp [ha] at h
  | some a =>
    by_cases he : a.enabled
    · simp only [ha, he, Option.map_some, if_true, Option.some.injEq] at h
      simp [← h]
    · simp [ha, he] at h

theorem stop_le_of_blocks {i : Nat} {b : Block} (h : s.blocks[i]? = some (some b)) :
    b.stop ≤ s.numMultipliers :=
  (s.tiles_blocks.bounds.2 b (List.reduceOption_mem_iff.2 (List.mem_of_getElem? h))).2

/-- Different constraints have disjoint blocks. -/
theorem disjoint_blocks {i j : Nat} {a b : Block} (hij : i < j)
    (ha : s.blocks[i]? = some (some a)) (hb : s.blocks[j]? = some (some b)) :
    a.stop ≤ b.start := by
  have h := s.tiles_blocks.pairwise
  rw [List.reduceOption, List.pairwise_filterMap, List.pairwise_iff_getElem] at h
  obtain ⟨hi, ha⟩ := List.getElem?_eq_some_iff.1 ha
  obtain ⟨hj, hb⟩ := List.getElem?_eq_some_iff.1 hb
  exact h i j hi hj hij a ha b hb

end State

/-! ### What depends on the switches and sizes alone -/

namespace Slot

theorem blocksFrom_congr {xs ys : List (Slot α)} (start : Nat)
    (hf : xs.map (·.enabled) = ys.map (·.enabled)) (hs : xs.map (·.size) = ys.map (·.size)) :
    blocksFrom start xs = blocksFrom start ys ∧ total xs = total ys := by
  induction xs generalizing ys start with
  | nil =>
    cases ys with
    | nil => exact ⟨rfl, rfl⟩
    | cons => cases hf
  | cons x xs ih =>
    cases ys with
    | nil => cases hf
    | cons y ys =>
      simp only [List.map_cons, List.cons.injEq] at hf hs
      have ht : x.taken = y.taken := by simp [taken, hf.1, hs.1]
      obtain ⟨hb, hn⟩ := ih (start + y.taken) hf.2 hs.2
      simp only [blocksFrom, total_cons, ht, hf.1, hs.1, hb, hn, and_self]

end Slot

namespace State

variable {s s' : State α}

theorem blocks_congr (hf : s.flags = s'.flags) (hs : s.sizes = s'.sizes) : s.blocks = s'.blocks :=
  (Slot.blocksFrom_congr 0 hf hs).1

theorem numMultipliers_congr (hf : s.flags = s'.flags) (hs : s.sizes = s'.sizes) :
    s.numMultipliers = s'.numMultipliers :=
  (Slot.blocksFrom_congr 0 hf hs).2

end State

/-! ### What a handle names -/

namespace State

variable {s : State α} {c : Handle .constraint}

theorem multiplierHandle_of_none {which : UInt64} (h : s.multiplierBlock c = .ok none) :
    s.multiplierHandle c which = .ok none := by
  simp [multiplierHandle, h, bind, Except.bind, pure, Except.pure]

/-- The sum is one of machine words. Where it wraps around it falls below the block, so that it
still passes for a place in front of the end. -/
theorem multiplierHandle_of_words {which : UInt64} {b : Block}
    (h : s.multiplierBlock c = .ok (some b)) (hb : b.stop < UInt64.size) :
    s.multiplierHandle c which = .ok (
      if which.toNat < b.size then some (Handle.ofNat (b.start + which.toNat))
      else if UInt64.size ≤ b.start + which.toNat then
        some (Handle.ofNat (b.start + which.toNat - UInt64.size))
      else none) := by
  have hstop : b.stop = b.start + b.size := rfl
  have hsize : UInt64.size = 2 ^ 64 := rfl
  have hwhich : which.toNat < 2 ^ 64 := which.toNat_lt
  have hword : ∀ n ≤ b.stop, n.toUInt64.toNat = n := fun n hn =>
    UInt64.toNat_ofNat_of_lt' (Nat.lt_of_le_of_lt hn hb)
  have hsum : (b.start.toUInt64 + which).toNat = (b.start + which.toNat) % 2 ^ 64 := by
    rw [UInt64.toNat_add, hword _ (by omega)]
  have hlt : b.start.toUInt64 + which < b.stop.toUInt64 ↔
      (b.start + which.toNat) % 2 ^ 64 < b.stop := by
    rw [UInt64.lt_iff_toNat_lt, hsum, hword _ (Nat.le_refl _)]
  simp only [multiplierHandle, h, bind, Except.bind, pure, Except.pure, Option.bind_some, hlt, hsum]
  by_cases hinside : which.toNat < b.size
  · have hmod : (b.start + which.toNat) % 2 ^ 64 = b.start + which.toNat := by omega
    rw [if_pos hinside, if_pos (by omega), hmod]
  · by_cases hwraps : UInt64.size ≤ b.start + which.toNat
    · have hmod : (b.start + which.toNat) % 2 ^ 64 = b.start + which.toNat - UInt64.size := by omega
      rw [if_neg hinside, if_pos hwraps, if_pos (by omega), hmod]
    · rw [if_neg hinside, if_neg hwraps, if_neg (by omega)]

/-- Far below the largest machine word the sum does not wrap around. -/
theorem multiplierHandle_of_block {which : UInt64} {b : Block}
    (h : s.multiplierBlock c = .ok (some b)) (hb : b.stop ≤ UInt32.size)
    (hw : which.toNat < UInt32.size) :
    s.multiplierHandle c which =
      .ok (if which.toNat < b.size then some (Handle.ofNat (b.start + which.toNat)) else none) := by
  have hstop : b.stop = b.start + b.size := rfl
  have hsize : UInt32.size = 4294967296 := rfl
  have hwords : UInt64.size = 2 ^ 64 := rfl
  rw [multiplierHandle_of_words h (by omega), if_neg (c := UInt64.size ≤ _) (by omega)]

/-- Only a constraint that is told its block names a multiplier. -/
theorem exists_block_of_handle {which : UInt64} {m : Handle .multiplier}
    (h : s.multiplierHandle c which = .ok (some m)) :
    s.stale = false ∧ ∃ b, s.multiplierBlock c = .ok (some b) := by
  cases hb : s.multiplierBlock c with
  | error f => simp [multiplierHandle, hb, bind, Except.bind] at h
  | ok o =>
    cases o with
    | none =>
      rw [multiplierHandle_of_none hb] at h
      cases h
    | some b =>
      refine ⟨Bool.eq_false_iff.2 fun hst => ?_, b, rfl⟩
      rw [multiplierBlock_of_stale hst] at hb
      cases hb

/-- A multiplier is named for a direction inside the block, or for one so far beyond it that the
sum wraps around. -/
theorem multiplierHandle_eq_some_of_block {which : UInt64} {m : Handle .multiplier} {b : Block}
    (h : s.multiplierBlock c = .ok (some b)) (hb : b.stop ≤ UInt32.size) :
    s.multiplierHandle c which = .ok (some m) ↔
      which.toNat < b.size ∧ m.toNat = b.start + which.toNat ∨
        UInt64.size ≤ b.start + which.toNat ∧ m.toNat + UInt64.size = b.start + which.toNat := by
  have hstop : b.stop = b.start + b.size := rfl
  have hsize : UInt32.size = 4294967296 := rfl
  have hwords : UInt64.size = 2 ^ 64 := rfl
  have hwhich : which.toNat < 2 ^ 64 := which.toNat_lt
  have hnames : ∀ n < UInt32.size, (Handle.ofNat n = m ↔ m.toNat = n) := fun n hn =>
    ⟨fun hm => hm ▸ Handle.toNat_ofNat hn, fun hm => hm ▸ m.ofNat_toNat⟩
  rw [multiplierHandle_of_words h (by omega), Except.ok.injEq]
  split
  · rw [Option.some.injEq, hnames _ (by omega)]
    omega
  · split
    · rw [Option.some.injEq, hnames _ (by omega)]
      omega
    · refine iff_of_false nofun ?_
      omega

theorem multiplierHandle_eq_some_iff {which : UInt64} {m : Handle .multiplier}
    (hs : s.numMultipliers ≤ UInt32.size) :
    s.multiplierHandle c which = .ok (some m) ↔
      s.stale = false ∧ ∃ b, s.blocks[c.toNat]? = some (some b) ∧
        (which.toNat < b.size ∧ m.toNat = b.start + which.toNat ∨
          UInt64.size ≤ b.start + which.toNat ∧
            m.toNat + UInt64.size = b.start + which.toNat) := by
  constructor
  · intro h
    obtain ⟨hst, b, hb⟩ := exists_block_of_handle h
    have hblock := (multiplierBlock_of_fresh hst).1 hb
    have hle := Nat.le_trans (stop_le_of_blocks hblock) hs
    exact ⟨hst, b, hblock, (multiplierHandle_eq_some_of_block hb hle).1 h⟩
  · rintro ⟨hst, b, hblock, hm⟩
    have hle := Nat.le_trans (stop_le_of_blocks hblock) hs
    have hb := (multiplierBlock_of_fresh hst).2 hblock
    exact (multiplierHandle_eq_some_of_block hb hle).2 hm

theorem multiplierHandle_eq_some {which : UInt64} {m : Handle .multiplier}
    (hs : s.numMultipliers ≤ UInt32.size) (hw : which.toNat < UInt32.size)
    (h : s.multiplierHandle c which = .ok (some m)) :
    s.stale = false ∧ ∃ b, s.blocks[c.toNat]? = some (some b) ∧ which.toNat < b.size ∧
      m.toNat = b.start + which.toNat := by
  obtain ⟨hst, b, hblock, ⟨hinside, hm⟩ | ⟨hwraps, -⟩⟩ := (multiplierHandle_eq_some_iff hs).1 h
  · exact ⟨hst, b, hblock, hinside, hm⟩
  · have hle := stop_le_of_blocks hblock
    have hstop : b.stop = b.start + b.size := rfl
    have hsize : UInt32.size = 4294967296 := rfl
    have hwords : UInt64.size = 2 ^ 64 := rfl
    omega

theorem multiplierHandle_lt {which : UInt64} {m : Handle .multiplier}
    (hs : s.numMultipliers ≤ UInt32.size) (hw : which.toNat < UInt32.size)
    (h : s.multiplierHandle c which = .ok (some m)) : m.toNat < s.numMultipliers := by
  obtain ⟨-, b, hb, hlt, hm⟩ := multiplierHandle_eq_some hs hw h
  have hstop := stop_le_of_blocks hb
  have hsum : b.stop = b.start + b.size := rfl
  omega

/-- Different constraints and different directions of one have different multipliers. -/
theorem multiplierHandle_injective {c' : Handle .constraint} {which which' : UInt64}
    {m : Handle .multiplier} (hs : s.numMultipliers ≤ UInt32.size)
    (hw : which.toNat < UInt32.size) (hw' : which'.toNat < UInt32.size)
    (h : s.multiplierHandle c which = .ok (some m))
    (h' : s.multiplierHandle c' which' = .ok (some m)) : c = c' ∧ which = which' := by
  obtain ⟨-, a, ha, hlt, hm⟩ := multiplierHandle_eq_some hs hw h
  obtain ⟨-, b, hb, hlt', hm'⟩ := multiplierHandle_eq_some hs hw' h'
  have hsum : a.stop = a.start + a.size := rfl
  have hsum' : b.stop = b.start + b.size := rfl
  have hc : c.toNat = c'.toNat := by
    rcases Nat.lt_trichotomy c.toNat c'.toNat with hlt | heq | hgt
    · have := disjoint_blocks hlt ha hb
      omega
    · exact heq
    · have := disjoint_blocks hgt hb ha
      omega
  rw [hc, hb] at ha
  cases ha
  exact ⟨Handle.toNat_injective hc, UInt64.toNat_inj.1 (by omega)⟩

/-- An enabled constraint has a block of its size. -/
theorem exists_block {n : Nat} (hn : s.sizes[c.toNat]? = some n) (he : s.isEnabled c = .ok true) :
    ∃ b, s.blocks[c.toNat]? = some (some b) ∧ b.size = n := by
  rw [isEnabled_eq_ok, ← isSome_blocks, List.getElem?_map] at he
  obtain ⟨o, ho, hsome⟩ := Option.map_eq_some_iff.1 he
  obtain ⟨b, rfl⟩ := Option.isSome_iff_exists.1 hsome
  rw [size_of_blocks ho] at hn
  exact ⟨b, ho, Option.some.inj hn⟩

end State

end OneSided
