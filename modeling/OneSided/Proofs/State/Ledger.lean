import OneSided.Proofs.State.Effect

/-! A ledger kept beside a run. It is blank when a state is allocated and whenever stale
multipliers are laid out anew, and notes in between whether any constraint was switched
and what was last written to each multiplier. It looks at the operations and at the
switches only. Main statement: a state reached by a run agrees with its ledger, so the
layout is marked as stale exactly when a constraint was switched, no position is valid
over a stale layout, and the multipliers hold what was written to them. -/

namespace OneSided

variable {α : Type}

structure Ledger (α : Type) where
  /-- Some constraint was switched. -/
  switched : Bool
  /-- What was last written to a multiplier. -/
  written : Nat → Option α

namespace Ledger

def blank : Ledger α := ⟨false, fun _ => none⟩

/-- What a multiplier must hold: zero until it is written. -/
def value [Zero α] (l : Ledger α) (i : Nat) : α := (l.written i).getD 0

variable [Scalar α]

/-- Notes what an operation does to a state. -/
def enter (l : Ledger α) (op : Operation α) (s : State α) : Ledger α :=
  if l.switched ∧ op.passesPosition s then blank
  else
    { switched := l.switched || decide ((op.run s).state.flags ≠ s.flags)
      written := match op.writes? s with
        | some (i, v) => fun j => if j = i then some v else l.written j
        | none => l.written }

/-- The ledger after a run from a state. -/
def after : Ledger α → List (Operation α) → State α → Ledger α
  | l, [], _ => l
  | l, op :: ops, s => (l.enter op s).after ops (op.run s).state

end Ledger

/-! ### Agreement -/

section Agreement

variable [Scalar α] {op : Operation α} {s s' : State α}

/-- What a state and the ledger of its run agree on. -/
structure Ledger.Tracks (l : Ledger α) (s : State α) : Prop where
  stale : s.stale = l.switched
  position : Stage.position ≤ s.stage → s.stale = false
  values : s.stale = false → s.multipliers = (List.range s.numMultipliers).map l.value

namespace Ledger

variable {l : Ledger α}

theorem enter_quiet (hf : (op.run s).state.flags = s.flags) (hp : op.passesPosition s = false)
    (hw : op.writes? s = none) : l.enter op s = l := by
  simp [enter, hf, hp, hw]

theorem enter_write {i : Nat} {v : α} (hf : (op.run s).state.flags = s.flags)
    (hp : op.passesPosition s = false) (hw : op.writes? s = some (i, v)) :
    l.enter op s = { l with written := fun j => if j = i then some v else l.written j } := by
  simp [enter, hf, hp, hw]

theorem enter_flip (hf : (op.run s).state.flags ≠ s.flags) (hp : op.passesPosition s = false) :
    (l.enter op s).switched = true := by
  simp [enter, hf, hp]

theorem enter_pass (hf : (op.run s).state.flags = s.flags) (hp : op.passesPosition s = true)
    (hw : op.writes? s = none) : l.enter op s = if l.switched then blank else l := by
  cases l with
  | mk switched written => cases switched <;> simp [enter, hf, hp, hw]

theorem blank_values (n : Nat) :
    (List.range n).map (blank : Ledger α).value = List.replicate n 0 := by
  rw [List.eq_replicate_iff]
  exact ⟨by simp, by simp [value, blank]⟩

/-- Where a switch has changed, nothing is expected of the multipliers. -/
theorem Tracks.of_stale (hs : s.stale = true) (hp : s.stage < .position)
    (hl : l.switched = true) : l.Tracks s where
  stale := hs.trans hl.symm
  position h := absurd h (Stage.not_le.2 hp)
  values h := by simp [hs] at h

theorem Tracks.write (hl : l.Tracks s) (i : Nat) (v : α) :
    Tracks { l with written := fun j => if j = i then some v else l.written j }
      { s with multipliers := s.multipliers.set i v } where
  stale := hl.stale
  position := hl.position
  values h := by
    change s.multipliers.set i v = _
    rw [hl.values h]
    refine List.ext_getElem (by simp [State.numMultipliers]) fun j h₁ h₂ => ?_
    by_cases hj : i = j
    · subst hj
      simp [value]
    · simp [value, hj, Ne.symm hj]

theorem Tracks.pass (hl : l.Tracks s) (stage : Stage) :
    Tracks (if l.switched then blank else l)
      { (if s.stage < .position then s.assignMultipliers else s) with stage := stage } := by
  cases hs : s.stale with
  | false =>
    have hkeep : (if s.stage < .position then s.assignMultipliers else s) = s := by
      simp [State.assignMultipliers, hs]
    rw [hkeep, ← hl.stale, hs]
    exact ⟨hl.stale, fun _ => hs, hl.values⟩
  | true =>
    -- no position is valid over a stale layout, so the realization lays it out anew
    have hstage : s.stage < .position := by
      refine Stage.not_le.1 fun h => ?_
      simp [hl.position h] at hs
    rw [if_pos hstage, ← hl.stale, hs, if_pos rfl]
    simp only [State.assignMultipliers, hs, if_true]
    exact ⟨rfl, fun _ => rfl, fun _ => (blank_values _).symm⟩

theorem Tracks.enter (hl : l.Tracks s) (op : Operation α) :
    (l.enter op s).Tracks (op.run s).state := by
  obtain ⟨s', hs'⟩ : ∃ s', s' = (op.run s).state := ⟨_, rfl⟩
  have he : Effect op s s' := hs' ▸ op.effect s
  rw [← hs']
  rcases he.flags with hf | ⟨hf, hstale, hstage, hpass⟩
  · have hn := State.numMultipliers_congr hf he.sizes
    rw [hs'] at hf
    cases he with
    | keep slots multipliers stale stage _ passes writes =>
      rw [enter_quiet hf passes writes]
      refine ⟨stale.trans hl.stale, fun h => stale.trans (hl.position (stage h)), fun h => ?_⟩
      rw [multipliers, hn, hl.values (stale.symm.trans h)]
    | write hi passes writes =>
      rw [enter_write hf passes writes]
      exact hl.write _ _
    | flip slot change =>
      rw [← hs'] at hf
      exact absurd hf (State.flags_flip slot change)
    | mark slot passes writes =>
      rw [enter_quiet hf passes writes]
      refine ⟨hl.stale, fun h => ?_, fun h => ?_⟩
      · exact hl.position (Stage.le_trans h (Stage.invalidate_le ..))
      · rw [hn]
        exact hl.values h
    | pass passes writes =>
      rw [enter_pass hf passes writes]
      exact hl.pass _
  · exact .of_stale hstale hstage (enter_flip (hs' ▸ hf) hpass)

/-- A realization of the positions lays out what is stale. -/
theorem Tracks.realize (hl : l.Tracks s) (hswitch : l.switched = true) {t : Topology}
    (hm : t.matchesState s = true) {stage : Stage} (hp : .position ≤ stage) :
    (blank : Ledger α).Tracks (t.realize s stage).state ∧
      (t.realize s stage).state.flags = s.flags := by
  have hpass : (Operation.realize t stage).passesPosition s = true := by
    simp [Operation.passesPosition, hm, hp]
  have hflags : (t.realize s stage).state.flags = s.flags := by
    rcases (Effect.realize t s stage).flags with hf | ⟨-, -, -, hno⟩
    · exact hf
    · simp [hpass] at hno
  have hrun : ((Operation.realize t stage).run s).state.flags = s.flags := hflags
  have h := hl.enter (.realize t stage)
  rw [enter_pass hrun hpass rfl, hswitch] at h
  exact ⟨h, hflags⟩

/-- A state reached by a run agrees with the ledger of the run. -/
theorem Tracks.after (hl : l.Tracks s) (ops : List (Operation α)) :
    (l.after ops s).Tracks (Operation.runAll ops s) := by
  induction ops generalizing l s with
  | nil => exact hl
  | cons op ops ih => exact ih (hl.enter op)

theorem Tracks.allocate (t : Topology) : (blank : Ledger α).Tracks t.allocate := by
  have hn : (t.allocate : State α).numMultipliers = 0 := by
    rw [State.numMultipliers, Slot.total_eq_sum, Topology.allocate]
    simp [Slot.taken, Function.comp_def]
  refine ⟨rfl, fun _ => rfl, fun _ => ?_⟩
  rw [hn]
  rfl

end Ledger

end Agreement

/-! ### What persists in a ledger -/

namespace Ledger

variable [Scalar α] {l : Ledger α} {s : State α} {ops : List (Operation α)}

/-- A switch that has changed is remembered until the positions are realized. -/
theorem switched_after (hl : l.switched = true)
    (h : ∀ t stage, Operation.realize t stage ∈ ops → ¬Stage.position ≤ stage) :
    (l.after ops s).switched = true := by
  induction ops generalizing l s with
  | nil => exact hl
  | cons op ops ih =>
    have hp : op.passesPosition s = false := by
      cases op with
      | realize t stage =>
        simp [Operation.passesPosition, h t stage List.mem_cons_self]
      | _ => rfl
    refine ih ?_ fun t stage ht => h t stage (List.mem_cons_of_mem _ ht)
    simp [enter, hp, hl]

theorem enter_steady {op : Operation α} (hl : l.switched = false)
    (hf : (op.run s).state.flags = s.flags) :
    (l.enter op s).switched = false ∧
      ∀ k, (∀ v, op ≠ .setMultiplier k v) → (l.enter op s).written k = l.written k := by
  simp only [enter, hl, hf, Bool.false_eq_true, false_and, if_false, Bool.false_or, ne_eq,
    not_true_eq_false, decide_false, true_and]
  intro k hk
  cases op with
  | setMultiplier i v =>
    have hi : k ≠ i := fun h => hk v (h ▸ rfl)
    simp only [Operation.writes?]
    split
    · simp [hi]
    · rfl
  | _ => rfl

/-- As long as no switch changes, what was written to a multiplier stays. -/
theorem after_steady (hl : l.switched = false) (hs : Operation.Steady ops s) :
    (l.after ops s).switched = false ∧
      ∀ k, (∀ v, .setMultiplier k v ∉ ops) → (l.after ops s).value k = l.value k := by
  induction ops generalizing l s with
  | nil => exact ⟨hl, fun _ _ => rfl⟩
  | cons op ops ih =>
    obtain ⟨hswitch, hwritten⟩ := enter_steady hl hs.1
    obtain ⟨hs', hv⟩ := ih hswitch hs.2
    refine ⟨hs', fun k hk => ?_⟩
    have hop := hwritten k fun v h => hk v (h ▸ List.mem_cons_self)
    rw [after, hv k fun v h => hk v (List.mem_cons_of_mem _ h), value, hop, value]

end Ledger

end OneSided
