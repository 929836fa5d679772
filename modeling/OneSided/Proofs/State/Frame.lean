import OneSided.Proofs.State.Effect

/-! What every operation does to the fields of a state, and what it leaves as it was. The
flags only change by switches, the coordinates and motions only by the operations that
write them; and what each operation of a run keeps is kept by the run. -/

namespace OneSided

variable {α : Type} [Scalar α]

/-! ### What an operation leaves as it was -/

/-- The second state has the coordinates, speeds, rates and motions of the first. -/
structure State.SameMotion (s s' : State α) : Prop where
  q : s'.q = s.q
  u : s'.u = s.u
  udot : s'.udot = s.udot
  motions : s'.motions = s.motions

omit [Scalar α] in
theorem State.SameMotion.refl (s : State α) : s.SameMotion s := ⟨rfl, rfl, rfl, rfl⟩

omit [Scalar α] in
theorem State.SameMotion.trans {s s' s'' : State α} (h : s.SameMotion s') (h' : s'.SameMotion s'') :
    s.SameMotion s'' :=
  ⟨h'.q.trans h.q, h'.u.trans h.u, h'.udot.trans h.udot, h'.motions.trans h.motions⟩

namespace Operation

/-- Whether an operation writes coordinates, speeds, rates or motions. -/
def moves : Operation α → Bool
  | setCoordinate .. | setSpeed .. | setRate .. | modifyMotion .. => true
  | _ => false

theorem sameMotion_run {op : Operation α} (h : op.moves = false) (s : State α) :
    s.SameMotion (op.run s).state := by
  cases op with
  | setCoordinate | setSpeed | setRate | modifyMotion => cases h
  | setTime | invalidate => exact ⟨rfl, rfl, rfl, rfl⟩
  | setMultiplier => rw [run_setMultiplier]; exact ⟨rfl, rfl, rfl, rfl⟩
  | switch e on =>
    change s.SameMotion (e.switch s on).state
    rcases e.switch_cases s on with ⟨h, -⟩ | ⟨l, a, -, -, -, h, -⟩ <;> rw [h] <;>
      exact ⟨rfl, rfl, rfl, rfl⟩
  | setAnchor l p =>
    change s.SameMotion (l.setAnchor s p).state
    rcases l.setAnchor_cases p s with ⟨f, h⟩ | ⟨a, -, h⟩ <;> rw [h] <;> exact ⟨rfl, rfl, rfl, rfl⟩
  | realize t stage =>
    rcases run_realize t stage s with ⟨-, h⟩ | ⟨-, h⟩ <;> rw [h]
    · exact .refl s
    · unfold State.assignMultipliers
      split <;> (try split) <;> exact ⟨rfl, rfl, rfl, rfl⟩

/-- Slots only change by switches and by anchors. -/
theorem slots_run {op : Operation α} (hon : ∀ e on, op ≠ .switch e on)
    (ha : ∀ l p, op ≠ .setAnchor l p) (s : State α) : (op.run s).state.slots = s.slots := by
  cases op with
  | switch e on => exact absurd rfl (hon e on)
  | setAnchor l p => exact absurd rfl (ha l p)
  | setTime | invalidate => rfl
  | setCoordinate => rw [run_setCoordinate]
  | setSpeed => rw [run_setSpeed]
  | setRate => rw [run_setRate]
  | modifyMotion => rw [run_modifyMotion]
  | setMultiplier => rw [run_setMultiplier]
  | realize t stage =>
    rcases run_realize t stage s with ⟨-, h⟩ | ⟨-, h⟩ <;> rw [h]
    unfold State.assignMultipliers
    split <;> (try split) <;> rfl

/-- Only a switch changes flags. -/
theorem flags_run {op : Operation α} (hop : ∀ e on, op ≠ .switch e on) (s : State α) :
    (op.run s).state.flags = s.flags := by
  by_cases ha : ∃ l p, op = .setAnchor l p
  · obtain ⟨l, p, rfl⟩ := ha
    change (l.setAnchor s p).state.flags = _
    rcases l.setAnchor_cases p s with ⟨f, h⟩ | ⟨a, ha, h⟩ <;> rw [h]
    exact map_set_of_eq ha rfl
  · exact congrArg (List.map _) (slots_run hop (fun l p h => ha ⟨l, p, h⟩) s)

/-! ### What every operation of a run does -/

theorem sameMotion_runAll {ops : List (Operation α)} (h : ∀ op ∈ ops, op.moves = false)
    (s : State α) : s.SameMotion (runAll ops s) := by
  induction ops generalizing s with
  | nil => exact .refl s
  | cons op ops ih =>
    rw [List.forall_mem_cons] at h
    exact (sameMotion_run h.1 s).trans (ih h.2 _)

/-- Every operation of a run has a property in the state that it is applied to. -/
def Throughout (P : Operation α → State α → Prop) : List (Operation α) → State α → Prop
  | [], _ => True
  | op :: ops, s => P op s ∧ Throughout P ops (op.run s).state

variable {P : Operation α → State α → Prop}

theorem Throughout.keeps {Q : State α → Prop} {ops : List (Operation α)} {s : State α}
    (h : Throughout P ops s) (step : ∀ op s, P op s → Q s → Q (op.run s).state) (hs : Q s) :
    Q (runAll ops s) := by
  induction ops generalizing s with
  | nil => exact hs
  | cons op ops ih => exact ih h.2 (step op s h.1 hs)

end Operation

end OneSided
