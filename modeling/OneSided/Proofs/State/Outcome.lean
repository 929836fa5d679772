import OneSided.Proofs.Assembly.Workshop
import OneSided.Proofs.State.Block

/-! What comes of every operation. Switching a constraint, setting an anchor and realizing
a stage have a few outcomes each; writing to an array has one. -/

namespace OneSided

variable {α : Type}

/-! ### Switching a constraint -/

/-- The state in which the constraint with slot `a` has been switched. -/
def State.turn (s : State α) (c : Handle .constraint) (a : Slot α) (on : Bool) : State α :=
  ({ s with slots := s.slots.set c.toNat { a with enabled := on }, stale := true }
    : State α).invalidate .position

/-- The constraint is missing, or it is as asked for already, or it is switched. -/
theorem State.switch_cases (s : State α) (c : Handle .constraint) (on : Bool)
    (n : List (Notice α)) :
    (∃ f, s.isEnabled c = .error f ∧ s.switch c on n = ⟨s, .error f, []⟩) ∨
    (s.isEnabled c = .ok on ∧ s.switch c on n = ⟨s, .ok false, []⟩) ∨
    ∃ a, s.slots[c.toNat]? = some a ∧ a.enabled ≠ on ∧
      s.switch c on n = ⟨s.turn c a on, .ok true, n⟩ := by
  unfold isEnabled switch
  cases hc : s.slot c with
  | error f => exact .inl ⟨f, rfl, rfl⟩
  | ok a =>
    by_cases ha : a.enabled = on
    · exact .inr (.inl ⟨congrArg Except.ok ha, if_pos ha⟩)
    · exact .inr (.inr ⟨a, State.slot_eq_ok.1 hc, ha, if_neg ha⟩)

/-! ### Setting an anchor -/

/-- The constraint is missing, or its anchor is set. -/
theorem StickingBall.setAnchor_cases (l : StickingBall α) (p : Option (Vec3 α)) (s : State α) :
    (∃ f, l.setAnchor s p = ⟨s, .error f, []⟩) ∨
    ∃ a, s.slots[l.constraint.toNat]? = some a ∧ l.setAnchor s p =
      ⟨({ s with slots := s.slots.set l.constraint.toNat { a with anchor := p } }
        : State α).invalidate .position, .ok (), []⟩ := by
  unfold setAnchor State.setAnchor
  cases hc : s.slot l.constraint with
  | error f => exact .inl ⟨f, rfl⟩
  | ok a => exact .inr ⟨a, State.slot_eq_ok.1 hc, rfl⟩

variable [Scalar α]

/-! ### Switching an element -/

namespace Element

theorem switch_of_constraint {e : Element α} {c : Handle .constraint}
    (h : e.constraint? = some c) (s : State α) (on : Bool) :
    ∃ n, e.switch s on = s.switch c on n := by
  rcases e with k | f | d | l
  · cases k <;> cases h <;> exact ⟨_, rfl⟩
  · cases f <;> cases h
    exact ⟨_, rfl⟩
  · cases d <;> cases h
    exact ⟨_, rfl⟩
  · cases h
    exact ⟨_, rfl⟩

theorem switch_of_none {e : Element α} (h : e.constraint? = none) (s : State α)
    (on : Bool) : e.switch s on = ⟨s, .ok false, []⟩ := by
  rcases e with k | f | d | l
  · cases k <;> cases h
    rfl
  · cases f <;> cases h
    rfl
  · cases d <;> cases h
    rfl
  · cases h

omit [Scalar α] in
theorem constraint_eq (e : Element α) : e.constraint? = e.lock?.map Lock.constraint := by
  rcases e with c | f | d | l
  · rfl
  · cases f <;> rfl
  · cases d <;> rfl
  · rfl

/-- A call that switches an element leaves the state alone, or it turns the constraint of
the element's lock and says so. -/
theorem switch_cases (e : Element α) (s : State α) (on : Bool) :
    ((e.switch s on).state = s ∧ (e.switch s on).answer ≠ .ok true) ∨
    ∃ l a, e.lock? = some l ∧ s.slots[l.constraint.toNat]? = some a ∧ a.enabled ≠ on ∧
      (e.switch s on).state = s.turn l.constraint a on ∧ (e.switch s on).answer = .ok true := by
  cases hl : e.lock? with
  | none =>
    rw [switch_of_none (by rw [constraint_eq, hl]; rfl)]
    exact .inl ⟨rfl, by simp⟩
  | some l =>
    obtain ⟨n, hn⟩ := switch_of_constraint (e := e) (by rw [constraint_eq, hl]; rfl) s on
    rw [hn]
    rcases s.switch_cases l.constraint on n with ⟨f, -, h⟩ | ⟨-, h⟩ | ⟨a, ha, hon, h⟩ <;> rw [h]
    · exact .inl ⟨rfl, by simp⟩
    · exact .inl ⟨rfl, by simp⟩
    · exact .inr ⟨l, a, rfl, ha, hon, rfl, rfl⟩

end Element

/-! ### Realizing -/

omit [Scalar α] in
theorem State.assignMultipliers_stage [Zero α] (s : State α) :
    s.assignMultipliers.stage = s.stage := by
  unfold assignMultipliers
  split <;> rfl

theorem Topology.realize_of_mismatch {t : Topology} {s : State α} (h : t.matchesState s = false)
    (stage : Stage) : t.realize s stage = ⟨s, .error .topology, []⟩ := by
  simp [realize, h]

/-- An accepted realization lays stale multipliers out on its way to the positions, and
reaches its stage. -/
theorem Topology.realize_of_match {t : Topology} {s : State α} (h : t.matchesState s = true)
    (stage : Stage) :
    (t.realize s stage).answer = .ok () ∧ (t.realize s stage).state =
      { (if .position ≤ stage ∧ s.stage < .position then s.assignMultipliers else s) with
        stage := if s.stage < stage then stage else s.stage } := by
  have hreach : ∀ r : State α, r.stage = s.stage →
      (if r.stage < stage then { r with stage } else r) =
        { r with stage := if s.stage < stage then stage else s.stage } := by
    intro r hr
    rw [hr]
    split
    · rfl
    · rw [← hr]
  constructor
  · simp [realize, h]
  · simp only [realize, h, if_true, decide_eq_true_eq]
    apply hreach
    split
    · exact s.assignMultipliers_stage
    · rfl

/-! ### The state after an operation

Writing beyond the end of an array changes nothing in it. -/

namespace Operation

theorem run_setCoordinate (i : Nat) (v : α) (s : State α) :
    ((setCoordinate i v).run s).state =
      { s with q := s.q.set i v, stage := s.stage.invalidate .position } := by
  change (s.setCoordinate i v).state = _
  unfold State.setCoordinate
  dsimp only
  split
  · rfl
  · rename_i hi
    have hi : s.q.length ≤ i := Nat.le_of_not_lt hi
    rw [List.set_eq_of_length_le hi]
    rfl

theorem run_setSpeed (i : Nat) (v : α) (s : State α) :
    ((setSpeed i v).run s).state =
      { s with u := s.u.set i v, stage := s.stage.invalidate .velocity } := by
  change (s.setSpeed i v).state = _
  unfold State.setSpeed
  dsimp only
  split
  · rfl
  · rename_i hi
    have hi : s.u.length ≤ i := Nat.le_of_not_lt hi
    rw [List.set_eq_of_length_le hi]
    rfl

theorem run_setRate (i : Nat) (v : α) (s : State α) :
    ((setRate i v).run s).state =
      { s with udot := s.udot.set i v, stage := s.stage.invalidate .acceleration } := by
  change (s.setRate i v).state = _
  unfold State.setRate
  dsimp only
  split
  · rfl
  · rename_i hi
    have hi : s.udot.length ≤ i := Nat.le_of_not_lt hi
    rw [List.set_eq_of_length_le hi]
    rfl

theorem run_modifyMotion (b : Handle .body) (change : Motion α → Motion α) (s : State α) :
    ((modifyMotion b change).run s).state =
      { s with
        motions := s.motions.modify b.toNat change, stage := s.stage.invalidate .position } := by
  change (s.modifyMotion b _).state = _
  unfold State.modifyMotion
  dsimp only
  split
  · rfl
  · rename_i hi
    have hi : s.motions.length ≤ b.toNat := Nat.le_of_not_lt hi
    rw [List.modify_eq_self hi]
    rfl

theorem run_setMultiplier (i : Nat) (v : α) (s : State α) :
    ((setMultiplier i v).run s).state = { s with multipliers := s.multipliers.set i v } := by
  change (s.setMultiplier i v).state = _
  unfold State.setMultiplier
  split
  · rfl
  · rename_i hi
    rw [List.set_eq_of_length_le (Nat.le_of_not_lt hi)]
    rfl

/-- The state belongs to another assembly, or it is computed up to the stage. -/
theorem run_realize (t : Topology) (stage : Stage) (s : State α) :
    t.matchesState s = false ∧ ((realize t stage).run s).state = s ∨
    t.matchesState s = true ∧ ((realize t stage).run s).state =
      { (if .position ≤ stage ∧ s.stage < .position then s.assignMultipliers else s) with
        stage := if s.stage < stage then stage else s.stage } := by
  change _ ∧ (t.realize s stage).state = _ ∨ _ ∧ (t.realize s stage).state = _
  cases hm : t.matchesState s with
  | false => exact .inl ⟨rfl, by rw [Topology.realize_of_mismatch hm]⟩
  | true => exact .inr ⟨rfl, (Topology.realize_of_match hm stage).2⟩

end Operation

end OneSided
