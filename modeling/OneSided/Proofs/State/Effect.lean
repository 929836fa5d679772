import OneSided.Proofs.State.Outcome

/-! What one operation can do to the switches, the multipliers and the stage. There are
five kinds of effect; what is shown of the multipliers over whole runs rests on them and on
nothing else of the operations. -/

namespace OneSided

variable {α : Type}

/-! ### Kinds of effect -/

/-- An accepted realization of the positions: on its way stale multipliers are laid out. -/
def Operation.passesPosition (op : Operation α) (s : State α) : Bool :=
  match op with
  | realize t stage => t.matchesState s && decide (Stage.position ≤ stage)
  | _ => false

/-- The multiplier that an operation writes, and its new value. -/
def Operation.writes? (op : Operation α) (s : State α) : Option (Nat × α) :=
  match op with
  | setMultiplier i v => if i < s.multipliers.length then some (i, v) else none
  | _ => none

/-- The effect of an operation that takes the state `s` to the second state. -/
inductive Effect [Scalar α] (op : Operation α) (s : State α) : State α → Prop
  /-- Switches and multipliers stay, and no position becomes valid. -/
  | keep {s' : State α} (slots : s'.slots = s.slots) (multipliers : s'.multipliers = s.multipliers)
      (stale : s'.stale = s.stale) (stage : .position ≤ s'.stage → Stage.position ≤ s.stage)
      (lengths : s'.q.length = s.q.length ∧ s'.motions.length = s.motions.length)
      (passes : op.passesPosition s = false) (writes : op.writes? s = none) : Effect op s s'
  | write {i : Nat} {v : α} (hi : i < s.multipliers.length)
      (passes : op.passesPosition s = false) (writes : op.writes? s = some (i, v)) :
      Effect op s { s with multipliers := s.multipliers.set i v }
  /-- A switch changes. -/
  | flip {i : Nat} {a : Slot α} {on : Bool} (slot : s.slots[i]? = some a) (change : a.enabled ≠ on)
      (passes : op.passesPosition s = false) (writes : op.writes? s = none) :
      Effect op s (({ s with
        slots := s.slots.set i { a with enabled := on }, stale := true } : State α).invalidate
          .position)
  /-- An anchor changes. -/
  | mark {i : Nat} {a : Slot α} {p : Option (Vec3 α)} (slot : s.slots[i]? = some a)
      (passes : op.passesPosition s = false) (writes : op.writes? s = none) :
      Effect op s (({ s with slots := s.slots.set i { a with anchor := p } } : State α).invalidate
        .position)
  /-- The positions are realized. -/
  | pass {stage : Stage} (passes : op.passesPosition s = true) (writes : op.writes? s = none) :
      Effect op s { (if s.stage < .position then s.assignMultipliers else s) with stage := stage }

theorem Stage.invalidate_le (s first : Stage) : s.invalidate first ≤ s := by
  cases s <;> cases first <;> decide

theorem Stage.invalidate_lt {s first : Stage} (h : first ≠ .topology) :
    s.invalidate first < first := by
  cases s <;> cases first <;> first | contradiction | decide

theorem Stage.invalidate_position_le (s : Stage) : s.invalidate .position ≤ .model := by
  cases s <;> decide

theorem Stage.le_trans {a b c : Stage} (hab : a ≤ b) (hbc : b ≤ c) : a ≤ c :=
  Nat.le_trans hab hbc

theorem Stage.not_le {a b : Stage} : ¬a ≤ b ↔ b < a := Nat.not_le

section Running

variable [Scalar α]

theorem Effect.invalidate {op : Operation α} {s s' : State α} {first : Stage}
    (slots : s'.slots = s.slots) (multipliers : s'.multipliers = s.multipliers)
    (stale : s'.stale = s.stale) (stage : s'.stage = s.stage.invalidate first)
    (lengths : s'.q.length = s.q.length ∧ s'.motions.length = s.motions.length)
    (passes : op.passesPosition s = false) (writes : op.writes? s = none) : Effect op s s' :=
  .keep slots multipliers stale (fun h => Stage.le_trans (stage ▸ h) (Stage.invalidate_le ..))
    lengths passes writes

theorem Effect.nothing {op : Operation α} {s : State α} (passes : op.passesPosition s = false)
    (writes : op.writes? s = none) : Effect op s s :=
  .keep rfl rfl rfl id ⟨rfl, rfl⟩ passes writes

theorem Effect.realize (t : Topology) (s : State α) (stage : Stage) :
    Effect (.realize t stage) s (t.realize s stage).state := by
  cases hm : t.matchesState s with
  | false =>
    rw [Topology.realize_of_mismatch hm]
    exact .nothing (by simp [Operation.passesPosition, hm]) rfl
  | true =>
    rw [(Topology.realize_of_match hm stage).2]
    by_cases hp : Stage.position ≤ stage
    · simp only [hp, true_and]
      exact .pass (by simp [Operation.passesPosition, hm, hp]) rfl
    · have hreach : Stage.position ≤ (if s.stage < stage then stage else s.stage) →
          Stage.position ≤ s.stage := by
        split
        · exact fun h => absurd h hp
        · exact id
      simp only [hp, false_and, if_false]
      exact .keep rfl rfl rfl hreach ⟨rfl, rfl⟩ (by simp [Operation.passesPosition, hp]) rfl

/-- Every operation has one of the effects. -/
theorem Operation.effect (op : Operation α) (s : State α) : Effect op s (op.run s).state := by
  cases op with
  | setTime | invalidate => exact .invalidate rfl rfl rfl rfl ⟨rfl, rfl⟩ rfl rfl
  | setCoordinate i v =>
    rw [run_setCoordinate]
    exact .invalidate rfl rfl rfl rfl ⟨List.length_set .., rfl⟩ rfl rfl
  | setSpeed i v =>
    rw [run_setSpeed]
    exact .invalidate rfl rfl rfl rfl ⟨rfl, rfl⟩ rfl rfl
  | setRate i v =>
    rw [run_setRate]
    exact .invalidate rfl rfl rfl rfl ⟨rfl, rfl⟩ rfl rfl
  | modifyMotion b change =>
    rw [run_modifyMotion]
    exact .invalidate rfl rfl rfl rfl ⟨rfl, List.length_modify ..⟩ rfl rfl
  | setMultiplier i v =>
    change Effect _ s (s.setMultiplier i v).state
    unfold State.setMultiplier
    split
    · rename_i hi
      exact .write hi rfl (if_pos hi)
    · rename_i hi
      exact .nothing rfl (if_neg hi)
  | switch e on =>
    change Effect _ s (e.switch s on).state
    rcases e.switch_cases s on with ⟨h, -⟩ | ⟨l, a, -, ha, hon, h, -⟩ <;> rw [h]
    · exact .nothing rfl rfl
    · exact .flip ha hon rfl rfl
  | setAnchor l p =>
    change Effect _ s (l.setAnchor s p).state
    rcases l.setAnchor_cases p s with ⟨f, h⟩ | ⟨a, ha, h⟩ <;> rw [h]
    · exact .nothing rfl rfl
    · exact .mark ha rfl rfl
  | realize t stage => exact .realize t s stage

end Running

/-! ### What every effect keeps -/

theorem map_set_of_eq {β γ : Type} {xs : List β} {i : Nat} {a b : β} {f : β → γ}
    (ha : xs[i]? = some a) (hf : f b = f a) : (xs.set i b).map f = xs.map f := by
  obtain ⟨hi, rfl⟩ := List.getElem?_eq_some_iff.1 ha
  have hm : i < (xs.map f).length := by simpa using hi
  have h := List.set_getElem_self hm
  rw [List.getElem_map] at h
  rw [List.map_set, hf, h]

section Keeping

variable [Scalar α] {op : Operation α} {s s' : State α}

theorem State.slots_laid (s : State α) (stage : Stage) :
    ({ (if s.stage < .position then s.assignMultipliers else s) with stage := stage }
      : State α).slots = s.slots := by
  split
  · simp only [assignMultipliers]
    split <;> rfl
  · rfl

theorem Effect.sizes (h : Effect op s s') : s'.sizes = s.sizes := by
  unfold State.sizes
  cases h with
  | keep slots => rw [slots]
  | write => rfl
  | flip slot => exact map_set_of_eq slot rfl
  | mark slot => exact map_set_of_eq slot rfl
  | pass => rw [State.slots_laid]

omit [Scalar α] in
theorem State.flags_flip {i : Nat} {a : Slot α} {on : Bool} (slot : s.slots[i]? = some a)
    (change : a.enabled ≠ on) :
    (s.slots.set i { a with enabled := on }).map (·.enabled) ≠ s.flags := by
  intro h
  obtain ⟨hi, ha⟩ := List.getElem?_eq_some_iff.1 slot
  have hon := congrArg (·[i]?) h
  simp [State.flags, hi, ha] at hon
  exact change hon.symm

/-- Only a flip changes a switch. -/
theorem Effect.flags (h : Effect op s s') :
    s'.flags = s.flags ∨ s'.flags ≠ s.flags ∧ s'.stale = true ∧ s'.stage < .position ∧
      op.passesPosition s = false := by
  cases h with
  | keep slots => exact .inl (congrArg (List.map _) slots)
  | write => exact .inl rfl
  | flip slot change passes =>
    exact .inr ⟨State.flags_flip slot change, rfl, Stage.invalidate_lt (by decide), passes⟩
  | mark slot => exact .inl (map_set_of_eq slot rfl)
  | pass => exact .inl (congrArg (List.map _) (s.slots_laid _))

theorem Effect.matchesState (h : Effect op s s') (t : Topology) :
    t.matchesState s' = t.matchesState s := by
  have hslots : s'.slots.length = s.slots.length := by
    have hs := congrArg List.length h.sizes
    simpa only [State.sizes, List.length_map] using hs
  have hq : s'.q.length = s.q.length ∧ s'.motions.length = s.motions.length := by
    cases h with
    | keep _ _ _ _ lengths => exact lengths
    | write | flip | mark => exact ⟨rfl, rfl⟩
    | pass =>
      split
      · simp only [State.assignMultipliers]
        split <;> exact ⟨rfl, rfl⟩
      · exact ⟨rfl, rfl⟩
  unfold Topology.matchesState
  rw [hq.1, hq.2, hslots]

end Keeping

/-! ### Whole runs -/

namespace Operation

variable [Scalar α]

theorem sizes_runAll (ops : List (Operation α)) (s : State α) : (runAll ops s).sizes = s.sizes := by
  induction ops generalizing s with
  | nil => rfl
  | cons op ops ih => exact (ih _).trans (op.effect s).sizes

theorem matchesState_runAll (t : Topology) (ops : List (Operation α)) (s : State α) :
    t.matchesState (runAll ops s) = t.matchesState s := by
  induction ops generalizing s with
  | nil => rfl
  | cons op ops ih => exact (ih _).trans ((op.effect s).matchesState t)

/-- No operation of the run changes a switch. -/
def Steady : List (Operation α) → State α → Prop
  | [], _ => True
  | op :: ops, s => (op.run s).state.flags = s.flags ∧ Steady ops (op.run s).state

theorem Steady.flags {ops : List (Operation α)} {s : State α} (h : Steady ops s) :
    (runAll ops s).flags = s.flags := by
  induction ops generalizing s with
  | nil => rfl
  | cons op ops ih => exact (ih h.2).trans h.1

end Operation

theorem Topology.sizes_allocate [Scalar α] (t : Topology) :
    (t.allocate : State α).sizes = t.sizes := by
  simp [allocate, State.sizes, Function.comp_def]

theorem Topology.matchesState_allocate [Scalar α] (t : Topology) :
    t.matchesState (t.allocate : State α) = true := by
  simp [matchesState, allocate]

end OneSided
