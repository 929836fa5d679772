import OneSided.Proofs.State.Frame
import OneSided.Proofs.State.Layout

/-! The switches of an assembly over whole runs. A call that switches an element answers
whether it changed anything. Main statement: the calls that did so for one lock enable and
disable it in turn; such a call changes the lock's own flag, takes the stage back and
unassigns all multipliers until the positions are realized, and every other call of the
kind leaves the state as it was. -/

namespace OneSided

variable {α : Type}

/-! ### Turning one constraint -/

namespace State

variable {s : State α} {c c' : Handle .constraint} {a : Slot α} {on : Bool}

theorem flags_turn (s : State α) (c : Handle .constraint) (a : Slot α) (on : Bool) :
    (s.turn c a on).flags = s.flags.set c.toNat on := List.map_set

theorem isEnabled_turn_self (ha : s.slots[c.toNat]? = some a) :
    (s.turn c a on).isEnabled c = .ok on := by
  have hc : c.toNat < s.flags.length := by
    rw [flags, List.length_map]
    exact (List.getElem?_eq_some_iff.1 ha).1
  rw [isEnabled_eq_ok, flags_turn, List.getElem?_set_self hc]

theorem slot_set_of_ne {s' : State α} (hs : s'.slots = s.slots.set c.toNat a) (hc : c ≠ c') :
    s'.slot c' = s.slot c' := by
  have hne : c.toNat ≠ c'.toNat := fun h => hc (Handle.toNat_injective h)
  unfold slot Fault.fetch
  rw [hs, List.getElem?_set_ne hne]

theorem slot_switch_of_ne (hc : c ≠ c') (s : State α) (on : Bool) (n : List (Notice α)) :
    (s.switch c on n).state.slot c' = s.slot c' := by
  rcases s.switch_cases c on n with ⟨f, -, h⟩ | ⟨-, h⟩ | ⟨a, -, -, h⟩ <;> rw [h]
  exact slot_set_of_ne rfl hc

theorem isEnabled_turn_of_ne (hc : c' ≠ c) : (s.turn c a on).isEnabled c' = s.isEnabled c' := by
  have hslot : (s.turn c a on).slot c' = s.slot c' := slot_set_of_ne rfl hc.symm
  rw [isEnabled, hslot]
  rfl

theorem switch_answer (s : State α) (c : Handle .constraint) (on : Bool) (n : List (Notice α)) :
    (s.switch c on n).answer = (s.isEnabled c).map (· != on) := by
  rcases s.switch_cases c on n with ⟨f, hf, h⟩ | ⟨hon, h⟩ | ⟨a, ha, hon, h⟩
  · rw [h, hf]
    rfl
  · rw [h, hon]
    simp [Except.map]
  · have he : s.isEnabled c = .ok a.enabled := by
      rw [isEnabled_eq_ok, flags, List.getElem?_map, ha]
      rfl
    rw [h, he]
    simp [Except.map, hon]

/-- The second state differs from the first by the flag of a constraint, by a stage before
the positions, and by its multipliers being stale. -/
structure Switched (s s' : State α) (c : Handle .constraint) (on : Bool) : Prop where
  before : s.isEnabled c = .ok (!on)
  flags : s'.flags = s.flags.set c.toNat on
  sizes : s'.sizes = s.sizes
  anchors : s'.slots.map (·.anchor) = s.slots.map (·.anchor)
  time : s'.time = s.time
  motion : s.SameMotion s'
  multipliers : s'.multipliers = s.multipliers
  stage : s'.stage = s.stage.invalidate .position ∧ s'.stage ≤ .model

theorem switched_turn (ha : s.slots[c.toNat]? = some a) (hon : a.enabled ≠ on) :
    s.Switched (s.turn c a on) c on where
  before := by
    rw [isEnabled_eq_ok, State.flags, List.getElem?_map, ha, Option.map_some, Bool.eq_not.2 hon]
  flags := s.flags_turn c a on
  sizes := map_set_of_eq ha rfl
  anchors := map_set_of_eq ha rfl
  time := rfl
  motion := ⟨rfl, rfl, rfl, rfl⟩
  multipliers := rfl
  stage := ⟨rfl, Stage.invalidate_position_le s.stage⟩

/-- Nobody has a multiplier. -/
structure Unassigned [Scalar α] (s : State α) : Prop where
  block : ∀ c, s.multiplierBlock c = .ok none
  lock : ∀ (l : Lock α) which, l.multiplierHandle s which = .ok none
  contact : ∀ c : Contact α, c.lock?.isSome → Unilateral.multiplierHandle c s = .ok none
  tangential : ∀ c : Contact α, Unilateral.frictionHandles c s = .ok none
  friction : ∀ f : JointFriction α, LimitedFriction.multiplierHandle f s = .ok none
  drive : ∀ m : Motor α, BoundedDrive.multiplierHandle m s = .ok none

theorem unassigned_of_stale [Scalar α] (h : s.stale = true) : s.Unassigned := by
  have hc (c : Handle .constraint) (which : UInt64) : s.multiplierHandle c which = .ok none :=
    multiplierHandle_of_none (multiplierBlock_of_stale h)
  refine ⟨fun c => multiplierBlock_of_stale h, fun l which => hc _ _, fun c hl => ?_, fun c => ?_,
    fun f => hc _ _, fun m => hc _ _⟩
  · cases c with
    | prescribed c => cases hl
    | stop c => exact hc _ _
    | gliding c => exact hc _ _
    | gripping c => exact hc _ _
  · cases c with
    | gripping c =>
      change c.frictionHandles s = _
      simp only [GrippingTouch.frictionHandles, GrippingTouch.multiplierHandle, hc]
      rfl
    | stop | gliding | prescribed => rfl

end State

variable [Scalar α]

/-! ### Switching an element -/

namespace Element

/-- How an element tells whether it is enabled. -/
def isEnabled (e : Element α) (s : State α) : Except (Fault α) Bool :=
  match e with
  | contact c => Unilateral.isEnabled c s
  | friction f => LimitedFriction.isEnabled f s
  | drive d => BoundedDrive.isEnabled d s
  | lock l => s.isEnabled l.constraint

variable {e : Element α} {l : Lock α}

theorem isEnabled_of_lock (hl : e.lock? = some l) (s : State α) :
    e.isEnabled s = s.isEnabled l.constraint := by
  rcases e with c | f | d | k
  · cases c <;> cases hl <;> rfl
  · cases f <;> cases hl
    rfl
  · cases d <;> cases hl
    rfl
  · cases hl
    rfl

end Element

/-! ### The history of one constraint -/

namespace Operation

/-- What a call does to a constraint by its own answer: whether it has switched it on or off. -/
def flips? (op : Operation α) (c : Handle .constraint) (s : State α) : Option Bool :=
  match op with
  | switch e on =>
    match (e.switch s on).answer with
    | .ok true => if e.constraint? = some c then some on else none
    | _ => none
  | _ => none

/-- What the calls of a run have done to a constraint, in order. -/
def flips (c : Handle .constraint) : List (Operation α) → State α → List Bool
  | [], _ => []
  | op :: ops, s => (op.flips? c s).toList ++ flips c ops (op.run s).state

variable {c : Handle .constraint} {s : State α} {b : Bool}

/-- One call switches a constraint to the other side and says so, or leaves it as it is. -/
theorem isEnabled_run (op : Operation α) (hb : s.isEnabled c = .ok b) :
    op.flips? c s = none ∧ (op.run s).state.isEnabled c = .ok b ∨
    op.flips? c s = some (!b) ∧ (op.run s).state.isEnabled c = .ok (!b) := by
  by_cases hop : ∃ e on, op = .switch e on
  · obtain ⟨e, on, rfl⟩ := hop
    rcases e.switch_cases s on with ⟨hs, ha⟩ | ⟨l, a, hl, hslot, hon, hs, ha⟩
    · have hf : (switch e on).flips? c s = none := by simp only [flips?]
      refine .inl ⟨hf, ?_⟩
      change (e.switch s on).state.isEnabled c = _
      rw [hs, hb]
    · have hc : e.constraint? = some l.constraint := by rw [e.constraint_eq, hl]; rfl
      have hf : (switch e on).flips? c s = if l.constraint = c then some on else none := by
        simp only [flips?, ha, hc, Option.some.injEq]
      have hrun : ((switch e on).run s).state = s.turn l.constraint a on := hs
      rw [hf, hrun]
      by_cases hlc : l.constraint = c
      · subst hlc
        have hbon : b = !on :=
          Except.ok.inj (hb.symm.trans (State.switched_turn hslot hon).before)
        subst hbon
        rw [Bool.not_not, if_pos rfl]
        exact .inr ⟨rfl, State.isEnabled_turn_self hslot⟩
      · rw [if_neg hlc, State.isEnabled_turn_of_ne (Ne.symm hlc)]
        exact .inl ⟨rfl, hb⟩
  · have hflags := flags_run (fun e on h => hop ⟨e, on, h⟩) s
    refine .inl ⟨?_, ?_⟩
    · cases op with
      | switch e on => exact absurd ⟨e, on, rfl⟩ hop
      | _ => rfl
    · rw [State.isEnabled_eq_ok] at hb ⊢
      rw [hflags, hb]

/-- Over a run a constraint is switched to and fro, and is where it was switched last. -/
theorem flips_alternate (ops : List (Operation α)) (hb : s.isEnabled c = .ok b) :
    (b :: flips c ops s).IsChain (· ≠ ·) ∧
      (runAll ops s).isEnabled c = .ok ((flips c ops s).getLast?.getD b) := by
  induction ops generalizing s b with
  | nil => exact ⟨List.isChain_singleton b, hb⟩
  | cons op ops ih =>
    rw [flips, runAll_cons]
    rcases isEnabled_run op hb with ⟨hf, hrun⟩ | ⟨hf, hrun⟩ <;> rw [hf]
    · exact ih hrun
    · obtain ⟨hchain, hlast⟩ := ih hrun
      refine ⟨List.isChain_cons_cons.2 ⟨by simp, hchain⟩, ?_⟩
      rw [hlast, Option.toList_some, List.singleton_append, List.getLast?_cons, Option.getD_some]

end Operation

/-! ### Whole runs -/

/-- Until the positions are realized, stale multipliers stay so. -/
theorem Effect.stale {op : Operation α} {s s' : State α} (h : Effect op s s')
    (hp : op.passesPosition s = false) (hs : s.stale = true) : s'.stale = true := by
  cases h with
  | keep _ _ stale => exact stale.trans hs
  | write | mark => exact hs
  | flip => rfl
  | pass passes => simp [hp] at passes

theorem Operation.stale_runAll {more : List (Operation α)} {s : State α}
    (hmore : Throughout (fun op s => op.passesPosition s = false) more s) (hs : s.stale = true) :
    (runAll more s).stale = true :=
  hmore.keeps (Q := fun s => s.stale = true) (fun op s hp => (op.effect s).stale hp) hs

theorem Operation.stale_of_switched {op : Operation α} {s : State α}
    (hf : (op.run s).state.flags ≠ s.flags) {more : List (Operation α)}
    (hmore : Throughout (fun op s => op.passesPosition s = false) more (op.run s).state) :
    (runAll more (op.run s).state).stale = true := by
  rcases (op.effect s).flags with hsame | ⟨-, hstale, -, -⟩
  · exact absurd hsame hf
  · exact stale_runAll hmore hstale

theorem Topology.isEnabled_allocate {t : Topology} {c : Handle .constraint} {n : Nat}
    (h : t.sizes[c.toNat]? = some n) : (t.allocate : State α).isEnabled c = .ok false := by
  rw [State.isEnabled_eq_ok, State.flags, allocate, List.map_map, List.getElem?_map, h]
  rfl

theorem Element.answer_of_isEnabled {e : Element α} {l : Lock α} {s : State α} {b : Bool}
    (hl : e.lock? = some l) (hb : s.isEnabled l.constraint = .ok b) (on : Bool) :
    (e.switch s on).answer = .ok (b != on) := by
  obtain ⟨n, hn⟩ := switch_of_constraint (e := e) (by rw [constraint_eq, hl]; rfl) s on
  rw [hn, State.switch_answer, hb]
  rfl

/-- After any run that has left the multipliers stale, a realization of the positions
divides them. -/
theorem Topology.divided_realize {t : Topology} (hcount : t.sizes.length ≤ UInt32.size)
    {ops : List (Operation α)} (hstale : (Operation.runAll ops t.allocate).stale = true)
    {stage : Stage} (hp : .position ≤ stage) :
    ∃ blocks, (t.realize (Operation.runAll ops t.allocate) stage).state.Divided t.sizes blocks := by
  have ht := (Ledger.Tracks.allocate (α := α) t).after ops
  have hm := (Operation.matchesState_runAll t ops _).trans (t.matchesState_allocate (α := α))
  obtain ⟨ht', -⟩ := ht.realize (ht.stale.symm.trans hstale) hm hp
  have hsizes := (Effect.realize t _ stage).sizes.trans (Operation.sizes_runAll_allocate t ops)
  have hlen : (t.realize (Operation.runAll ops t.allocate) stage).state.multipliers.length =
      (t.realize (Operation.runAll ops t.allocate) stage).state.numMultipliers := by
    rw [ht'.values ht'.stale, List.length_map, List.length_range]
  have hslots : (t.realize (Operation.runAll ops t.allocate) stage).state.slots.length ≤
      UInt32.size := by
    have h := congrArg List.length hsizes
    rw [State.sizes, List.length_map] at h
    exact h ▸ hcount
  rw [← hsizes]
  exact ⟨_, State.divided ht'.stale hlen hslots⟩

/-- The calls that switch elements, over any run from a new state of an assembly. For each
lock of the assembly, the calls that have changed something enable and disable it in turn,
whichever elements they were made of, and the lock is as the last of them has left it. A
call that changes nothing leaves the state alone. One that does changes the flag of its
lock; nobody has a multiplier from then on, until a realization of the positions divides
them anew. -/
theorem switches_alternate (steps : List (BuildStep α)) (ops : List (Operation α))
    (hw : (Workshop.build steps).topology.Addressable) :
    let w := Workshop.build steps
    let s := Operation.runAll ops w.topology.allocate
    (∀ l ∈ w.locks,
      let flips := Operation.flips l.constraint ops w.topology.allocate
      (false :: flips).IsChain (· ≠ ·) ∧
      ∀ e : Element α, e.lock? = some l →
        e.isEnabled s = .ok (flips.getLast?.getD false) ∧
        ∀ on, (e.switch s on).answer = .ok (flips.getLast?.getD false != on)) ∧
    ∀ (e : Element α) (on : Bool),
      ((e.switch s on).answer = .ok false → (e.switch s on).state = s) ∧
      ((e.switch s on).answer = .ok true → ∃ l, e.lock? = some l ∧
        s.Switched (e.switch s on).state l.constraint on ∧
        ∀ more, Operation.Throughout (fun op s => op.passesPosition s = false) more
            (e.switch s on).state →
          let r := Operation.runAll more (e.switch s on).state
          r.Unassigned ∧ ∀ stage, .position ≤ stage →
            ∃ blocks, (w.topology.realize r stage).state.Divided w.topology.sizes blocks) := by
  intro w s
  have hsound : w.Sound := Workshop.build_sound steps
  refine ⟨fun l hl => ?_, fun e on => ⟨fun hno => ?_, fun hyes => ?_⟩⟩
  · have hnew := Topology.isEnabled_allocate (α := α) (hsound.size_of_mem hw hl)
    obtain ⟨hchain, hlast⟩ := Operation.flips_alternate ops hnew
    refine ⟨hchain, fun e he => ⟨?_, fun on => e.answer_of_isEnabled he hlast on⟩⟩
    rw [e.isEnabled_of_lock he, hlast]
  · rcases e.switch_cases s on with ⟨hs, -⟩ | ⟨l, a, -, -, -, -, ha⟩
    · exact hs
    · cases hno.symm.trans ha
  · rcases e.switch_cases s on with ⟨-, ha⟩ | ⟨l, a, hl, hslot, hon, hs, -⟩
    · exact absurd hyes ha
    · rw [hs]
      refine ⟨l, hl, State.switched_turn hslot hon, fun more hmore => ?_⟩
      have hstale : (Operation.runAll more (s.turn l.constraint a on)).stale = true :=
        Operation.stale_runAll hmore rfl
      refine ⟨State.unassigned_of_stale hstale, fun stage hp => ?_⟩
      have hrun : Operation.runAll more (s.turn l.constraint a on) =
          Operation.runAll (ops ++ .switch e on :: more) w.topology.allocate := by
        rw [Operation.runAll_append, Operation.runAll_cons, ← hs]
        rfl
      rw [hrun] at hstale ⊢
      exact Topology.divided_realize (Nat.le_trans hsound.length_le_sum hw) hstale hp

/-- A motor that is switched on, and off through a copy of it. -/
theorem switches_alternate_of_motor :
    let body : Mobilizer := ⟨⟨1⟩, 0, 1⟩
    let lock : SpeedLock Float := ⟨⟨0⟩, 0, 3⟩
    let motor : Element Float := .drive (.motor ⟨body, 0, 2, none, lock, none⟩)
    let copy : Element Float := .drive (.motor ⟨body, 0, 2, none, lock, some ⟨4⟩⟩)
    let steps : List (BuildStep Float) := [.body 1, .make (.motor body 0 3 2)]
    let w := Workshop.build steps
    let ops : List (Operation Float) := [.switch motor true, .switch copy false]
    let s := Operation.runAll ops w.topology.allocate
    let more : List (Operation Float) := [.setTime 1]
    w.topology.Addressable ∧ .speed lock ∈ w.locks ∧
      Operation.flips lock.constraint ops w.topology.allocate = [true, false] ∧
      [false, true, false].IsChain (· ≠ ·) ∧
      motor.isEnabled s = .ok false ∧
      (copy.switch s false).answer = .ok false ∧ (copy.switch s false).state = s ∧
      (motor.switch s true).answer = .ok true ∧
      s.Switched (motor.switch s true).state lock.constraint true ∧
      (Operation.runAll more (motor.switch s true).state).Unassigned ∧
      ∃ blocks, (w.topology.realize (Operation.runAll more (motor.switch s true).state)
        .velocity).state.Divided w.topology.sizes blocks := by
  intro body lock motor copy steps w ops s more
  have hw : w.topology.Addressable := by
    change 1 + 0 ≤ UInt32.size
    decide
  have hl : .speed lock ∈ w.locks := List.mem_cons_self
  have hflips : Operation.flips lock.constraint ops w.topology.allocate = [true, false] := rfl
  have hp : Stage.position ≤ Stage.velocity := by decide
  obtain ⟨hlocks, hcalls⟩ := switches_alternate steps ops hw
  obtain ⟨hchain, helement⟩ := hlocks _ hl
  obtain ⟨hon, hanswer⟩ := helement motor rfl
  have hno : (copy.switch s false).answer = .ok false := (helement copy rfl).2 false
  have hyes : (motor.switch s true).answer = .ok true := hanswer true
  obtain ⟨l, hlock, hswitched, hmore⟩ := (hcalls motor true).2 hyes
  cases hlock
  obtain ⟨hnone, hdivided⟩ := hmore more ⟨rfl, trivial⟩
  exact ⟨hw, hl, hflips, hchain, hon, hno, (hcalls copy false).1 hno, hyes, hswitched, hnone,
    hdivided .velocity hp⟩

end OneSided
