import OneSided.Proofs.State.Answer
import OneSided.Proofs.State.Layout
import OneSided.Proofs.State.Validity

/-! Operations that fail for an index that is out of bounds. Some open a whole list for writing
before they look for the entry, and opening it already takes the stage back; the others look
for the entry first. Main statement: a failed operation changes the stage at most, and that as
a successful one on the same list would. So whatever follows, the multipliers are laid out and
hold the same as if the operation had not been tried. -/

namespace OneSided

variable {α : Type}

/-! ### Entries -/

/-- The lists of a state whose entries operations reach by an index. -/
inductive Entries where
  | coordinates
  | speeds
  | rates
  | motions
  | multipliers
  | slots

namespace Entries

/-- How many entries the list has. -/
def count (s : State α) : Entries → Nat
  | coordinates => s.q.length
  | speeds => s.u.length
  | rates => s.udot.length
  | motions => s.motions.length
  | multipliers => s.multipliers.length
  | slots => s.slots.length

/-- What opening the list leaves of the stage, before any entry is looked for. -/
def opened (stage : Stage) : Entries → Stage
  | coordinates | motions => stage.invalidate .position
  | speeds => stage.invalidate .velocity
  | rates => stage.invalidate .acceleration
  | multipliers | slots => stage

/-- Whether the list is opened before its entry is looked for. -/
def opensFirst : Entries → Bool
  | coordinates | speeds | rates | motions => true
  | multipliers | slots => false

theorem opened_of_not_opensFirst {list : Entries} (h : list.opensFirst = false) (stage : Stage) :
    list.opened stage = stage := by
  cases list with
  | multipliers | slots => rfl
  | _ => cases h

end Entries

namespace Operation

/-- The entry that an operation reaches for. -/
def target? : Operation α → Option (Entries × Nat)
  | setCoordinate i _ => some (.coordinates, i)
  | setSpeed i _ => some (.speeds, i)
  | setRate i _ => some (.rates, i)
  | modifyMotion b _ => some (.motions, b.toNat)
  | setMultiplier i _ => some (.multipliers, i)
  | switch e _ => e.constraint?.map fun c => (.slots, c.toNat)
  | setAnchor l _ => some (.slots, l.constraint.toNat)
  | setTime _ | invalidate _ | realize _ _ => none

/-- The operation reaches for an entry that the state does not have. -/
def Misses (op : Operation α) (s : State α) : Prop :=
  ∃ (list : Entries) (i : Nat), op.target? = some (list, i) ∧ list.count s ≤ i

end Operation

/-! ### States with the same data -/

/-- The second state differs from the first one in the stage at most. -/
structure State.SameData (s s' : State α) : Prop extends s.SameMotion s' where
  time : s'.time = s.time
  slots : s'.slots = s.slots
  multipliers : s'.multipliers = s.multipliers
  stale : s'.stale = s.stale

section SameData

variable {s s' : State α}

namespace State.SameData

theorem eq (h : s.SameData s') : s' = { s with stage := s'.stage } := by
  cases s'
  simp only [State.mk.injEq, and_true]
  exact ⟨h.time, h.q, h.u, h.udot, h.motions, h.slots, h.multipliers, h.stale⟩

theorem restaged (s : State α) (stage : Stage) : s.SameData { s with stage := stage } :=
  ⟨⟨rfl, rfl, rfl, rfl⟩, rfl, rfl, rfl, rfl⟩

theorem symm (h : s.SameData s') : s'.SameData s where
  q := h.q.symm
  u := h.u.symm
  udot := h.udot.symm
  motions := h.motions.symm
  time := h.time.symm
  slots := h.slots.symm
  multipliers := h.multipliers.symm
  stale := h.stale.symm

theorem trans {s'' : State α} (h : s.SameData s') (h' : s'.SameData s'') : s.SameData s'' where
  toSameMotion := h.toSameMotion.trans h'.toSameMotion
  time := h'.time.trans h.time
  slots := h'.slots.trans h.slots
  multipliers := h'.multipliers.trans h.multipliers
  stale := h'.stale.trans h.stale

theorem multiplierBlock (h : s.SameData s') (c : Handle .constraint) :
    s'.multiplierBlock c = s.multiplierBlock c := by
  rw [h.eq]
  rfl

theorem multiplierHandle (h : s.SameData s') (c : Handle .constraint) (which : UInt64) :
    s'.multiplierHandle c which = s.multiplierHandle c which := by
  rw [h.eq]
  rfl

theorem multiplier? (h : s.SameData s') (m : Handle .multiplier) :
    s'.multiplier? m = s.multiplier? m := by
  rw [h.eq]
  rfl

end State.SameData

theorem State.slot_restaged (s : State α) (stage : Stage) (c : Handle .constraint) :
    ({ s with stage := stage } : State α).slot c = s.slot c := rfl

theorem State.slot_eq_error {c : Handle .constraint} (h : s.slots.length ≤ c.toNat) :
    s.slot c = .error .outOfBounds := Fault.fetch_of_le h

end SameData

section Failing

variable [Scalar α] {op : Operation α} {s s' : State α}

/-! ### What a failed operation does -/

namespace Operation

/-- An operation that misses its entry does nothing but open the list. -/
theorem run_of_misses {list : Entries} {i : Nat} (he : op.target? = some (list, i))
    (hi : list.count s ≤ i) :
    op.run s = ⟨{ s with stage := list.opened s.stage }, .error .outOfBounds, []⟩ := by
  cases op with
  | setTime | invalidate | realize => cases he
  | setCoordinate | setSpeed | setRate | modifyMotion =>
    cases he
    exact congrArg Outcome.silent (if_neg (Nat.not_lt.2 hi))
  | setMultiplier =>
    cases he
    exact congrArg Outcome.silent (if_neg (Nat.not_lt.2 hi))
  | switch e on =>
    obtain ⟨c, hc, htarget⟩ := Option.map_eq_some_iff.1 he
    cases htarget
    obtain ⟨n, hn⟩ := Element.switch_of_constraint hc s on
    change (e.switch s on).telling = _
    rw [hn, State.switch, State.slot_eq_error hi]
    rfl
  | setAnchor l p =>
    cases he
    change (s.setAnchor l.constraint p).silent = _
    rw [State.setAnchor, State.slot_eq_error hi]
    rfl

theorem inBounds_of_not_misses (h : ¬op.Misses s) : InBounds (op.run s).answer := by
  have htarget : ∀ list i, op.target? = some (list, i) → i < list.count s := fun list i he =>
    Nat.lt_of_not_le fun hi => h ⟨list, i, he, hi⟩
  cases op with
  | setTime | invalidate => exact Answered.inBounds ⟨_, rfl⟩
  | setCoordinate | setSpeed | setRate | modifyMotion | setMultiplier =>
    change InBounds (Outcome.silent (if _ then _ else _)).answer
    split
    · exact Answered.inBounds ⟨_, rfl⟩
    · rename_i hno
      exact absurd (htarget _ _ rfl) hno
  | switch e on =>
    change InBounds (e.switch s on).telling.answer
    cases hc : e.constraint? with
    | none =>
      rw [Element.switch_of_none hc]
      exact Answered.inBounds ⟨_, rfl⟩
    | some c =>
      have hi : c.toNat < s.slots.length := htarget .slots c.toNat (by simp [target?, hc])
      have hslot : s.slot c = .ok _ := Fault.fetch_of_lt hi
      obtain ⟨n, hn⟩ := Element.switch_of_constraint hc s on
      rw [hn, State.switch, hslot]
      dsimp only
      split <;> exact Answered.inBounds ⟨_, rfl⟩
  | setAnchor l p =>
    have hslot : s.slot l.constraint = .ok _ := Fault.fetch_of_lt (htarget .slots _ rfl)
    change InBounds (s.setAnchor l.constraint p).silent.answer
    rw [State.setAnchor, hslot]
    exact Answered.inBounds ⟨_, rfl⟩
  | realize t stage =>
    change InBounds (t.realize s stage).silent.answer
    cases hm : t.matchesState s with
    | false =>
      rw [Topology.realize_of_mismatch hm]
      intro hfault
      cases hfault
    | true =>
      rw [Outcome.silent, (Topology.realize_of_match hm stage).1]
      exact Answered.inBounds ⟨_, rfl⟩

/-- An operation fails for an index exactly if it misses its entry. -/
theorem answer_eq_outOfBounds_iff (op : Operation α) (s : State α) :
    (op.run s).answer = .error .outOfBounds ↔ op.Misses s := by
  constructor
  · exact fun h => by_contra fun hno => inBounds_of_not_misses hno h
  · rintro ⟨list, i, he, hi⟩
    rw [run_of_misses he hi]

omit [Scalar α] in
/-- The operations that write coordinates, speeds, rates or motions open the list first. -/
theorem moves_of_target {list : Entries} {i : Nat} (he : op.target? = some (list, i)) :
    op.moves = list.opensFirst := by
  cases op with
  | setTime | invalidate | realize => cases he
  | switch =>
    obtain ⟨c, -, htarget⟩ := Option.map_eq_some_iff.1 he
    cases htarget
    rfl
  | _ => cases he; rfl

/-- An operation that opens the list first does the same to the stage whether or not it finds
the entry. -/
theorem stage_of_opensFirst {list : Entries} (hlist : list.opensFirst = true) {i : Nat}
    (he : op.target? = some (list, i)) (s : State α) :
    (op.run s).state.stage = list.opened s.stage := by
  have hmoves : op.moves = true := (moves_of_target he).trans hlist
  cases op with
  | setCoordinate => cases he; rw [run_setCoordinate]; rfl
  | setSpeed => cases he; rw [run_setSpeed]; rfl
  | setRate => cases he; rw [run_setRate]; rfl
  | modifyMotion => cases he; rw [run_modifyMotion]; rfl
  | _ => cases hmoves

end Operation

/-! ### What follows a failed operation -/

/-- An accepted realization of the positions lays out what is stale, and the others leave the
data alone, as long as no position is valid over a stale layout. -/
theorem Topology.sameData_realize {t : Topology} (hm : t.matchesState s = true)
    (hs : .position ≤ s.stage → s.stale = false) (goal : Stage) :
    (if .position ≤ goal then s.assignMultipliers else s).SameData (t.realize s goal).state := by
  rw [(realize_of_match hm goal).2]
  by_cases hgoal : .position ≤ goal
  · by_cases hstage : s.stage < .position
    · rw [if_pos hgoal, if_pos ⟨hgoal, hstage⟩]
      exact .restaged _ _
    · -- the positions are valid already, so that there is nothing to lay out
      have hkeep : s.assignMultipliers = s :=
        if_neg (by simp [hs (not_lt.1 hstage)])
      rw [if_pos hgoal, hkeep, ite_self]
      exact .restaged _ _
  · rw [if_neg hgoal, if_neg fun h => hgoal h.1]
    exact .restaged _ _

/-- What an operation does to the data does not depend on the stage, as long as no position is
valid over a stale layout. -/
theorem Operation.sameData_run_restaged (op : Operation α) {stage : Stage}
    (hs : .position ≤ s.stage → s.stale = false) (hstage : .position ≤ stage → s.stale = false) :
    (op.run s).state.SameData (op.run { s with stage := stage }).state := by
  cases op with
  | setTime | invalidate => exact .restaged _ _
  | setCoordinate => rw [run_setCoordinate, run_setCoordinate]; exact .restaged _ _
  | setSpeed => rw [run_setSpeed, run_setSpeed]; exact .restaged _ _
  | setRate => rw [run_setRate, run_setRate]; exact .restaged _ _
  | modifyMotion => rw [run_modifyMotion, run_modifyMotion]; exact .restaged _ _
  | setMultiplier => rw [run_setMultiplier, run_setMultiplier]; exact .restaged _ _
  | switch e on =>
    change (e.switch s on).state.SameData (e.switch { s with stage := stage } on).state
    cases hc : e.constraint? with
    | none =>
      rw [Element.switch_of_none hc, Element.switch_of_none hc]
      exact .restaged _ _
    | some c =>
      obtain ⟨n, hn⟩ := Element.switch_of_constraint hc s on
      obtain ⟨n', hn'⟩ := Element.switch_of_constraint hc { s with stage := stage } on
      rw [hn, hn', State.switch, State.switch, s.slot_restaged stage c]
      cases s.slot c with
      | error => exact .restaged _ _
      | ok a =>
        dsimp only
        split <;> exact .restaged _ _
  | setAnchor l p =>
    change (s.setAnchor l.constraint p).state.SameData
      (({ s with stage := stage } : State α).setAnchor l.constraint p).state
    rw [State.setAnchor, State.setAnchor, s.slot_restaged stage l.constraint]
    cases s.slot l.constraint <;> exact .restaged _ _
  | realize t goal =>
    -- whether it lays out the multipliers depends on the stage, but what comes of it does not
    change (t.realize s goal).state.SameData (t.realize { s with stage := stage } goal).state
    cases hm : t.matchesState s with
    | false =>
      have hm' : t.matchesState { s with stage := stage } = false := hm
      rw [Topology.realize_of_mismatch hm, Topology.realize_of_mismatch hm']
      exact .restaged _ _
    | true =>
      have hm' : t.matchesState { s with stage := stage } = true := hm
      have hlaid : (if .position ≤ goal then s.assignMultipliers else s).SameData
          (if .position ≤ goal then ({ s with stage := stage } : State α).assignMultipliers
            else { s with stage := stage }) := by
        rw [s.assignMultipliers_with_stage stage]
        split <;> exact .restaged _ _
      exact ((Topology.sameData_realize hm hs goal).symm.trans hlaid).trans
        (Topology.sameData_realize hm' hstage goal)

namespace State.SameData

variable {l l' : Ledger α}

theorem run (h : s.SameData s') (hs : l.Tracks s) (hs' : l'.Tracks s') (op : Operation α) :
    (op.run s).state.SameData (op.run s').state := by
  have hstale : .position ≤ s'.stage → s.stale = false := fun hstage =>
    h.stale.symm.trans (hs'.position hstage)
  rw [h.eq]
  exact op.sameData_run_restaged hs.position hstale

/-- States with the same data that runs have reached keep the same data in whatever follows. -/
theorem runAll (h : s.SameData s') (hs : l.Tracks s) (hs' : l'.Tracks s')
    (ops : List (Operation α)) :
    (Operation.runAll ops s).SameData (Operation.runAll ops s') := by
  induction ops generalizing s s' l l' with
  | nil => exact h
  | cons op ops ih => exact ih (h.run hs hs' op) (hs.enter op) (hs'.enter op)

end State.SameData

/-! ### Elements that are made later -/

omit [Scalar α] in
/-- A state has no slot for a lock that was made after its allocation. -/
theorem Workshop.Sound.slots_le_of_later {w : Workshop α} (hw : w.Sound)
    (ht : w.topology.Addressable) {n : Nat} (hn : s.slots.length = n) {l : Lock α}
    (hl : l ∈ w.locks.drop n) : s.slots.length ≤ l.constraint.toNat := by
  obtain ⟨i, hi⟩ := List.getElem?_of_mem hl
  rw [List.getElem?_drop] at hi
  rw [hw.toNat_constraint ht hi, hn]
  exact Nat.le_add_right n i

end Failing

/-- In any state that a run reaches, an operation fails for an index exactly if it misses its
entry. Then it leaves all data of the state as they were. The stage stays too if it switches an
element, sets an anchor or writes a multiplier, and otherwise becomes what any operation on the
same list makes of it, be it successful. So whatever operations follow, the data are the same
as without the failed one, and with them the multipliers that the constraints are told and what
these hold. Calls to elements that were made after the allocation of the state are of this
kind. -/
theorem failed_access_harmless [Scalar α] (pre post : List (BuildStep α))
    (ops : List (Operation α)) :
    let w := Workshop.build pre
    let later := Workshop.build (pre ++ post)
    let s := Operation.runAll ops w.topology.allocate
    (∀ op : Operation α, (op.run s).answer = .error .outOfBounds ↔ op.Misses s) ∧
    (∀ op : Operation α, op.Misses s →
      s.SameData (op.run s).state ∧
      (op.moves = false → (op.run s).state = s) ∧
      (op.moves = true → ∀ (op' : Operation α) (list : Entries) (i j : Nat),
        op.target? = some (list, i) → op'.target? = some (list, j) →
        (op'.run s).state.stage = (op.run s).state.stage) ∧
      ∀ more : List (Operation α),
        let r := Operation.runAll more s
        let r' := Operation.runAll more (op.run s).state
        r.SameData r' ∧
        (∀ c, r'.multiplierBlock c = r.multiplierBlock c) ∧
        (∀ c which, r'.multiplierHandle c which = r.multiplierHandle c which) ∧
        ∀ m, r'.multiplier? m = r.multiplier? m) ∧
    (later.topology.Addressable → ∀ l ∈ later.locks.drop w.locks.length,
      (∀ e on, e.lock? = some l → (Operation.switch e on).Misses s) ∧
      ∀ k p, l = .sticking k → (Operation.setAnchor k p).Misses s) := by
  intro w later s
  have hw : w.Sound := Workshop.build_sound pre
  have ht : (Ledger.blank.after ops w.topology.allocate).Tracks s :=
    (Ledger.Tracks.allocate w.topology).after ops
  refine ⟨fun op => op.answer_eq_outOfBounds_iff s, fun op hop => ?_, fun hlater l hl => ?_⟩
  · obtain ⟨list, i, he, hi⟩ := id hop
    have hrun := Operation.run_of_misses he hi
    have hsame : s.SameData (op.run s).state := by
      rw [hrun]
      exact .restaged s _
    refine ⟨hsame, fun hmoves => ?_, fun hmoves op' list' j k he' he'' => ?_, fun more => ?_⟩
    · rw [Operation.moves_of_target he] at hmoves
      rw [hrun, Entries.opened_of_not_opensFirst hmoves]
    · rw [Operation.moves_of_target he'] at hmoves
      rw [Operation.stage_of_opensFirst hmoves he', Operation.stage_of_opensFirst hmoves he'']
    · have hmore := hsame.runAll ht (ht.enter op) more
      exact ⟨hmore, hmore.multiplierBlock, hmore.multiplierHandle, hmore.multiplier?⟩
  · have hcount : s.slots.length = w.locks.length := by
      have hsizes := congrArg List.length (Operation.sizes_runAll_allocate w.topology ops)
      rwa [hw.sizes, State.sizes, List.length_map, List.length_map] at hsizes
    have hle := (Workshop.build_sound (pre ++ post)).slots_le_of_later hlater hcount hl
    refine ⟨fun e on he => ⟨.slots, l.constraint.toNat, ?_, hle⟩, fun k p hk => ?_⟩
    · rw [Operation.target?, Element.constraint_eq, he]
      rfl
    · subst hk
      exact ⟨.slots, _, rfl, hle⟩

/-- A coordinate that does not exist is written while a lock is on, and a lock is switched that
was made later. After the next realization the first lock has its multiplier as before. -/
theorem failed_access_harmless_of_lock :
    let body : Mobilizer := ⟨⟨1⟩, 0, 1⟩
    let pre : List (BuildStep Float) := [.body 1, .make (.speedLock body 0 0)]
    let post : List (BuildStep Float) := [.make (.coordinateLock body 0 0)]
    let first : SpeedLock Float := ⟨⟨0⟩, 0, 0⟩
    let second : CoordinateLock Float := ⟨⟨1⟩, 0, 0⟩
    let t := (Workshop.build pre).topology
    let s := Operation.runAll [.switch (.lock (.speed first)) true, .realize t .velocity] t.allocate
    let write : Operation Float := .setCoordinate 1 7
    let more : List (Operation Float) := [.realize t .velocity]
    let r := Operation.runAll more (write.run s).state
    (Workshop.build (pre ++ post)).topology.Addressable ∧
      .coordinate second ∈
        (Workshop.build (pre ++ post)).locks.drop (Workshop.build pre).locks.length ∧
      (write.run s).answer = .error .outOfBounds ∧ write.Misses s ∧
      (write.run s).state.stage = ((Operation.setCoordinate 0 7).run s).state.stage ∧
      (write.run s).state.stage = .model ∧
      r.multiplierHandle first.constraint 0 =
        (Operation.runAll more s).multiplierHandle first.constraint 0 ∧
      ((Operation.switch (.lock (.coordinate second)) true).run s).answer =
        .error .outOfBounds := by
  intro body pre post first second t s write more r
  have hw : (Workshop.build (pre ++ post)).topology.Addressable := by
    change 1 + (1 + 0) ≤ UInt32.size
    decide
  have hmem : .coordinate second ∈
      (Workshop.build (pre ++ post)).locks.drop (Workshop.build pre).locks.length :=
    List.mem_cons_self
  obtain ⟨hiff, hmiss, hlater⟩ := failed_access_harmless pre post
    [.switch (.lock (.speed first)) true, .realize t .velocity]
  have hwrite : write.Misses s := ⟨.coordinates, 1, rfl, Nat.le_refl 1⟩
  obtain ⟨-, -, hstage, hmore⟩ := hmiss write hwrite
  obtain ⟨-, -, hhandle, -⟩ := hmore more
  obtain ⟨hswitch, -⟩ := hlater hw _ hmem
  have hagree := hstage rfl (.setCoordinate 0 7) .coordinates 1 0 rfl rfl
  have hmodel : (write.run s).state.stage = .model := rfl
  have hfails : ((Operation.switch (.lock (.coordinate second)) true).run s).answer =
      .error .outOfBounds := (hiff _).2 (hswitch _ true rfl)
  exact ⟨hw, hmem, (hiff write).2 hwrite, hwrite, hagree.symm, hmodel,
    hhandle first.constraint 0, hfails⟩

end OneSided
