import OneSided.Proofs.State.Answer
import OneSided.Proofs.State.Switching

/-! Calls that switch elements, in one order or another. Main statement: calls that concern
different constraints can be exchanged. A reordering that keeps the calls for each constraint
in order leaves the same state and gets the same answers, and what the constraints are told
of their multipliers, once the positions are realized, depends on the switches that are on
and on the order of registration alone. -/

namespace OneSided

variable {α : Type}

/-! ### Two constraints -/

namespace State

variable {s : State α} {c c' : Handle .constraint} {on on' : Bool} {n n' : List (Notice α)}

theorem turn_turn (hc : c ≠ c') (s : State α) (a b : Slot α) :
    (s.turn c a on).turn c' b on' = (s.turn c' b on').turn c a on := by
  have hne : c.toNat ≠ c'.toNat := fun h => hc (Handle.toNat_injective h)
  simp only [turn, invalidate]
  rw [List.set_comm _ _ hne]

theorem switch_state (s : State α) (c : Handle .constraint) (on : Bool) (n : List (Notice α)) :
    (s.switch c on n).state = match s.slot c with
      | .ok a => if a.enabled = on then s else s.turn c a on
      | .error _ => s := by
  unfold switch
  cases s.slot c with
  | error => rfl
  | ok a =>
    dsimp only
    split <;> rfl

theorem isEnabled_switch_of_ne (hc : c ≠ c') (s : State α) (on : Bool) (n : List (Notice α)) :
    (s.switch c on n).state.isEnabled c' = s.isEnabled c' := by
  rw [isEnabled, slot_switch_of_ne hc]
  rfl

/-- Switches of different constraints can be exchanged. -/
theorem switch_switch (hc : c ≠ c') (s : State α) :
    ((s.switch c on n).state.switch c' on' n').state =
      ((s.switch c' on' n').state.switch c on n).state := by
  rw [switch_state (s.switch c on n).state, switch_state (s.switch c' on' n').state,
    slot_switch_of_ne hc, slot_switch_of_ne hc.symm, switch_state s, switch_state s]
  cases s.slot c with
  | error => cases s.slot c' <;> rfl
  | ok a =>
    cases s.slot c' with
    | error => rfl
    | ok b =>
      dsimp only
      split_ifs
      · rfl
      · rfl
      · rfl
      · exact turn_turn hc s a b

end State

/-! ### Calls in a row -/

/-- A call that switches an element. -/
structure SwitchCall (α : Type) where
  element : Element α
  on : Bool

namespace SwitchCall

def operation (r : SwitchCall α) : Operation α := .switch r.element r.on

/-- The call concerns a constraint. -/
def concerns (c : Handle .constraint) (r : SwitchCall α) : Bool :=
  r.element.constraint? = some c

/-- The calls concern different constraints, if any. -/
def Apart (r r' : SwitchCall α) : Prop :=
  ∀ c, r.element.constraint? = some c → r'.element.constraint? ≠ some c

theorem Apart.symm {r r' : SwitchCall α} (h : r.Apart r') : r'.Apart r :=
  fun c hc hc' => h c hc' hc

/-- The second list has the calls of the first one, those for each constraint in the same
order. -/
structure Reordered (rs rs' : List (SwitchCall α)) : Prop where
  perm : rs.Perm rs'
  order : ∀ c, rs.filter (concerns c) = rs'.filter (concerns c)

/-- The second list comes of the first one by exchanging neighbours that are apart. -/
inductive Exchanged : List (SwitchCall α) → List (SwitchCall α) → Prop
  | refl (rs : List (SwitchCall α)) : Exchanged rs rs
  | cons (r : SwitchCall α) {rs rs' : List (SwitchCall α)} (h : Exchanged rs rs') :
      Exchanged (r :: rs) (r :: rs')
  | swap {r r' : SwitchCall α} (h : r.Apart r') (rs : List (SwitchCall α)) :
      Exchanged (r :: r' :: rs) (r' :: r :: rs)
  | trans {rs rs' rs'' : List (SwitchCall α)} (h : Exchanged rs rs') (h' : Exchanged rs' rs'') :
      Exchanged rs rs''

/-- A call can be moved behind others that are apart from it. -/
theorem Exchanged.of_apart {r : SwitchCall α} {before : List (SwitchCall α)}
    (h : ∀ r' ∈ before, r.Apart r') (after : List (SwitchCall α)) :
    Exchanged (r :: before ++ after) (before ++ r :: after) := by
  induction before with
  | nil => exact .refl _
  | cons r' before ih =>
    rw [List.forall_mem_cons] at h
    exact .trans (.swap h.1 _) (.cons r' (ih h.2))

theorem concerns_eq_true {c : Handle .constraint} {r : SwitchCall α} :
    r.concerns c = true ↔ r.element.constraint? = some c := decide_eq_true_iff

/-- In a reordered list the first call stands behind calls that are apart from it. -/
theorem Reordered.exists_of_cons {r : SwitchCall α} {rs rs' : List (SwitchCall α)}
    (h : Reordered (r :: rs) rs') :
    ∃ before after, rs' = before ++ r :: after ∧ (∀ r' ∈ before, r.Apart r') ∧
      Reordered rs (before ++ after) := by
  obtain ⟨before, after, rfl, happart⟩ : ∃ before after, rs' = before ++ r :: after ∧
      ∀ r' ∈ before, r.Apart r' := by
    cases hc : r.element.constraint? with
    | none =>
      obtain ⟨before, after, h⟩ := List.append_of_mem (h.perm.subset List.mem_cons_self)
      exact ⟨before, after, h, fun r' _ c hr => by simp [hc] at hr⟩
    | some c =>
      have horder := h.order c
      rw [List.filter_cons_of_pos (concerns_eq_true.2 hc), eq_comm,
        List.filter_eq_cons_iff] at horder
      obtain ⟨before, after, rfl, hbefore, -, -⟩ := horder
      refine ⟨before, after, rfl, fun r' hr' c' hr hr'' => hbefore r' hr' ?_⟩
      rw [concerns_eq_true, hr'', ← hr, hc]
  refine ⟨before, after, rfl, happart,
    (List.perm_cons r).1 (h.perm.trans List.perm_middle), fun c => ?_⟩
  have horder := h.order c
  by_cases hr : r.concerns c
  · have hbefore : before.filter (concerns c) = [] := List.filter_eq_nil_iff.2 fun r' hr' h =>
      happart r' hr' c (concerns_eq_true.1 hr) (concerns_eq_true.1 h)
    simpa [List.filter_cons_of_pos hr, hbefore] using horder
  · simpa [List.filter_cons_of_neg hr] using horder

theorem Reordered.exchanged {rs rs' : List (SwitchCall α)} (h : Reordered rs rs') :
    Exchanged rs rs' := by
  induction rs generalizing rs' with
  | nil => exact List.nil_perm.1 h.perm ▸ .refl _
  | cons r rs ih =>
    obtain ⟨before, after, rfl, hbefore, hrest⟩ := h.exists_of_cons
    exact .trans (.cons r (ih hrest)) (.of_apart hbefore after)

/-! ### What comes of calls in a row -/

section Running

variable [Scalar α]

/-- What the call answers. -/
def answer (r : SwitchCall α) (s : State α) : Except (Fault α) Bool :=
  (r.element.switch s r.on).answer

/-- The state that the call leaves. -/
def next (r : SwitchCall α) (s : State α) : State α := (r.element.switch s r.on).state

/-- The state after some calls in turn. -/
def runAll (rs : List (SwitchCall α)) (s : State α) : State α :=
  Operation.runAll (rs.map operation) s

theorem runAll_cons (r : SwitchCall α) (rs : List (SwitchCall α)) (s : State α) :
    runAll (r :: rs) s = runAll rs (r.next s) := rfl

/-- The calls with what each of them answers in turn. -/
def answers : List (SwitchCall α) → State α → List (SwitchCall α × Except (Fault α) Bool)
  | [], _ => []
  | r :: rs, s => (r, r.answer s) :: answers rs (r.next s)

variable {r r' : SwitchCall α} {c : Handle .constraint}

theorem next_of_none (hc : r.element.constraint? = none) (s : State α) : r.next s = s := by
  rw [next, Element.switch_of_none hc]

theorem next_of_constraint (hc : r.element.constraint? = some c) (s : State α) :
    r.next s = (s.switch c r.on []).state := by
  obtain ⟨n, hn⟩ := Element.switch_of_constraint hc s r.on
  rw [next, hn, State.switch_state, State.switch_state]

theorem answer_of_constraint (hc : r.element.constraint? = some c) (s : State α) :
    r.answer s = (s.isEnabled c).map (· != r.on) := by
  obtain ⟨n, hn⟩ := Element.switch_of_constraint hc s r.on
  rw [answer, hn, State.switch_answer]

/-- A call does not notice one that is apart from it. -/
theorem Apart.answer_next (h : r.Apart r') (s : State α) : r'.answer (r.next s) = r'.answer s := by
  cases hc : r.element.constraint? with
  | none => rw [next_of_none hc]
  | some c =>
    cases hc' : r'.element.constraint? with
    | none => simp only [answer, Element.switch_of_none hc']
    | some c' =>
      have hne : c ≠ c' := fun heq => h c hc (heq ▸ hc')
      rw [next_of_constraint hc, answer_of_constraint hc', answer_of_constraint hc',
        State.isEnabled_switch_of_ne hne]

/-- Calls that are apart can be exchanged. -/
theorem Apart.next_next (h : r.Apart r') (s : State α) :
    r'.next (r.next s) = r.next (r'.next s) := by
  cases hc : r.element.constraint? with
  | none => rw [next_of_none hc, next_of_none hc]
  | some c =>
    cases hc' : r'.element.constraint? with
    | none => rw [next_of_none hc', next_of_none hc']
    | some c' =>
      have hne : c ≠ c' := fun heq => h c hc (heq ▸ hc')
      simp only [next_of_constraint hc, next_of_constraint hc']
      exact State.switch_switch hne s

theorem Exchanged.runAll_eq {rs rs' : List (SwitchCall α)} (h : Exchanged rs rs') (s : State α) :
    runAll rs s = runAll rs' s := by
  induction h generalizing s with
  | refl => rfl
  | cons r _ ih => exact ih (r.next s)
  | swap h rs => exact congrArg (runAll rs) (h.next_next s)
  | trans _ _ ih ih' => exact (ih s).trans (ih' s)

/-- The calls for one constraint get the same answers in the same order. -/
theorem Exchanged.answers_filter {rs rs' : List (SwitchCall α)} (h : Exchanged rs rs')
    (s : State α) (c : Handle .constraint) :
    (answers rs s).filter (concerns c ·.1) = (answers rs' s).filter (concerns c ·.1) := by
  induction h generalizing s with
  | refl => rfl
  | cons r _ ih =>
    simp only [answers, List.filter_cons, ih (r.next s)]
  | @swap r r' h rs =>
    simp only [answers, h.answer_next, h.symm.answer_next, h.next_next, List.filter_cons]
    by_cases hr : r.concerns c
    · have hr' : ¬r'.concerns c := fun hr' => h c (concerns_eq_true.1 hr) (concerns_eq_true.1 hr')
      simp only [hr, hr', if_true, Bool.false_eq_true, if_false]
    · simp only [hr, Bool.false_eq_true, if_false]
  | trans _ _ ih ih' => exact (ih s).trans (ih' s)

theorem Exchanged.answers_perm {rs rs' : List (SwitchCall α)} (h : Exchanged rs rs')
    (s : State α) : (answers rs s).Perm (answers rs' s) := by
  induction h generalizing s with
  | refl => exact .refl _
  | cons r _ ih => exact .cons _ (ih _)
  | swap h rs =>
    simp only [answers, h.answer_next, h.symm.answer_next, h.next_next]
    exact .swap _ _ _
  | trans _ _ ih ih' => exact (ih s).trans (ih' s)

theorem answer_answered {s : State α}
    (hc : ∀ c, r.element.constraint? = some c → c.toNat < s.slots.length) :
    Answered (r.answer s) := by
  cases hr : r.element.constraint? with
  | none => exact ⟨false, by rw [answer, Element.switch_of_none hr]⟩
  | some c =>
    obtain ⟨b, hb⟩ : Answered (s.isEnabled c) := Answered.map (Fault.fetch_answered (hc c hr)) _
    exact ⟨b != r.on, by rw [answer_of_constraint hr, hb]; rfl⟩

theorem length_slots_next (r : SwitchCall α) (s : State α) :
    (r.next s).slots.length = s.slots.length := by
  change (r.operation.run s).state.slots.length = _
  have h := congrArg List.length (r.operation.effect s).sizes
  simpa only [State.sizes, List.length_map] using h

/-- Calls for constraints that the state has are answered. -/
theorem answered_of_mem {rs : List (SwitchCall α)} {s : State α}
    {p : SwitchCall α × Except (Fault α) Bool} (hp : p ∈ answers rs s)
    (hc : ∀ c, p.1.element.constraint? = some c → c.toNat < s.slots.length) : Answered p.2 := by
  induction rs generalizing s with
  | nil => cases hp
  | cons r rs ih =>
    rcases List.mem_cons.1 hp with rfl | hp
    · exact answer_answered hc
    · exact ih hp (by rwa [length_slots_next])

end Running

end SwitchCall

/-! ### What the layout depends on -/

/-- The blocks of constraints of these sizes, those with their switch on taking theirs one
after the other from `start` on. -/
def Block.layout : Nat → List Nat → List Bool → List (Option Block)
  | start, n :: sizes, on :: flags =>
    (if on then some ⟨start, n⟩ else none) ::
      layout (start + if on then n else 0) sizes flags
  | _, _, _ => []

theorem Slot.blocksFrom_eq_layout (slots : List (Slot α)) (start : Nat) :
    blocksFrom start slots = Block.layout start (slots.map (·.size)) (slots.map (·.enabled)) := by
  induction slots generalizing start with
  | nil => rfl
  | cons a slots ih => simp only [blocksFrom, List.map_cons, Block.layout, ih, taken]

theorem State.blocks_eq_layout (s : State α) : s.blocks = Block.layout 0 s.sizes s.flags :=
  Slot.blocksFrom_eq_layout s.slots 0

theorem State.multiplierBlock_eq_fetch {s : State α} (h : s.stale = false)
    (c : Handle .constraint) : s.multiplierBlock c = Fault.fetch s.blocks c.toNat := by
  cases hb : s.blocks[c.toNat]? with
  | some o =>
    rw [(multiplierBlock_of_fresh h).2 hb, Fault.fetch, hb]
  | none =>
    have hc : s.slots.length ≤ c.toNat := by
      simpa [blocks] using List.getElem?_eq_none_iff.1 hb
    rw [multiplierBlock, h, slot, Fault.fetch_of_le hc, Fault.fetch, hb]
    rfl

/-- All elements are told the same of their multipliers in both states. -/
structure State.LaidAlike [Scalar α] (s s' : State α) : Prop where
  block : ∀ c, s'.multiplierBlock c = s.multiplierBlock c
  lock : ∀ (l : Lock α) which, l.multiplierHandle s' which = l.multiplierHandle s which
  contact : ∀ c : Contact α,
    Unilateral.multiplierHandle c s' = Unilateral.multiplierHandle c s
  tangential : ∀ c : Contact α, Unilateral.frictionHandles c s' = Unilateral.frictionHandles c s
  friction : ∀ f : FrictionElement α,
    LimitedFriction.multiplierHandle f s' = LimitedFriction.multiplierHandle f s
  drive : ∀ d : Drive α, BoundedDrive.multiplierHandle d s' = BoundedDrive.multiplierHandle d s

variable [Scalar α]

theorem State.laidAlike_of_blocks {s s' : State α}
    (h : ∀ c, s'.multiplierBlock c = s.multiplierBlock c) : s.LaidAlike s' := by
  have hc (c : Handle .constraint) (which : UInt64) :
      s'.multiplierHandle c which = s.multiplierHandle c which := by
    rw [multiplierHandle, h]
    rfl
  refine ⟨h, fun l which => hc _ _, fun c => ?_, fun c => ?_, fun f => ?_, fun d => ?_⟩
  · cases c with
    | prescribed => rfl
    | stop | gliding | gripping => exact hc _ _
  · cases c with
    | gripping c =>
      change c.frictionHandles s' = c.frictionHandles s
      simp only [GrippingTouch.frictionHandles, GrippingTouch.multiplierHandle, hc]
    | stop | gliding | prescribed => rfl
  · cases f with
    | joint => exact hc _ _
    | prescribed => rfl
  · cases d with
    | motor => exact hc _ _
    | prescribed => rfl

section Laying

variable {t : Topology} {stage : Stage}

theorem Topology.flags_realize (t : Topology) (s : State α) (stage : Stage) :
    (t.realize s stage).state.flags = s.flags := by
  have hrealize : ∀ e on, (Operation.realize t stage : Operation α) ≠ .switch e on := nofun
  exact Operation.flags_run hrealize s

theorem Topology.stale_realize (ops : List (Operation α)) (hp : .position ≤ stage) :
    (t.realize (Operation.runAll ops t.allocate) stage).state.stale = false := by
  have ht := ((Ledger.Tracks.allocate t).after ops).enter (.realize t stage)
  refine ht.position ?_
  have hm : t.matchesState (Operation.runAll ops t.allocate) = true :=
    (Operation.matchesState_runAll t ops _).trans t.matchesState_allocate
  change Stage.position ≤ (t.realize _ stage).state.stage
  rw [(Topology.realize_of_match hm stage).2]
  dsimp only
  split
  · exact hp
  · rename_i hlt
    exact Stage.le_trans hp (Nat.not_lt.1 hlt)

/-- Once the positions of a state are realized, a constraint is told of its block what the
switches and the order of registration make of it. -/
theorem Topology.multiplierBlock_realize (ops : List (Operation α)) (hp : .position ≤ stage)
    (c : Handle .constraint) :
    (t.realize (Operation.runAll ops t.allocate) stage).state.multiplierBlock c =
      Fault.fetch (Block.layout 0 t.sizes (Operation.runAll ops t.allocate : State α).flags)
        c.toNat := by
  have hsizes : (t.realize (Operation.runAll ops t.allocate) stage).state.sizes = t.sizes :=
    (Effect.realize t _ stage).sizes.trans (Operation.sizes_runAll_allocate t ops)
  rw [State.multiplierBlock_eq_fetch (t.stale_realize ops hp), State.blocks_eq_layout, hsizes,
    t.flags_realize]

end Laying

/-- The order of calls that switch elements does not matter, except for those that concern
one constraint. In whatever state, two orders of the same calls that agree for each
constraint leave the same state, and the calls get the same answers, which they do get if
the constraints are there. So realizing the positions afterwards lays out the same, and in
every state that a run reaches from a new one: what the constraints are then told of their
blocks is made of the switches that are on and of the order of registration, whatever has
switched them. -/
theorem switching_order_irrelevant :
    (∀ (s : State α) (rs rs' : List (SwitchCall α)), SwitchCall.Reordered rs rs' →
      SwitchCall.runAll rs s = SwitchCall.runAll rs' s ∧
      (SwitchCall.answers rs s).Perm (SwitchCall.answers rs' s) ∧
      (∀ c, (SwitchCall.answers rs s).filter (SwitchCall.concerns c ·.1) =
        (SwitchCall.answers rs' s).filter (SwitchCall.concerns c ·.1)) ∧
      (∀ p ∈ SwitchCall.answers rs s,
        (∀ c, p.1.element.constraint? = some c → c.toNat < s.slots.length) → Answered p.2) ∧
      ∀ (t : Topology) (stage : Stage),
        (t.realize (SwitchCall.runAll rs s) stage).state.LaidAlike
          (t.realize (SwitchCall.runAll rs' s) stage).state) ∧
    ∀ (t : Topology) (ops : List (Operation α)) (stage : Stage), .position ≤ stage →
      let s := Operation.runAll ops t.allocate
      let r := (t.realize s stage).state
      r.flags = s.flags ∧
      (∀ c, r.multiplierBlock c = Fault.fetch (Block.layout 0 t.sizes s.flags) c.toNat) ∧
      ∀ (ops' : List (Operation α)) (stage' : Stage), .position ≤ stage' →
        let s' := Operation.runAll ops' t.allocate
        s'.flags = s.flags → r.LaidAlike (t.realize s' stage').state := by
  refine ⟨fun s rs rs' h => ?_, fun t ops stage hp => ⟨t.flags_realize _ stage,
    t.multiplierBlock_realize ops hp, fun ops' stage' hp' hflags => ?_⟩⟩
  · have he := h.exchanged
    have hrun := he.runAll_eq s
    refine ⟨hrun, he.answers_perm s, he.answers_filter s, fun p hp => SwitchCall.answered_of_mem hp,
      fun t stage => State.laidAlike_of_blocks fun c => by rw [hrun]⟩
  · refine State.laidAlike_of_blocks fun c => ?_
    rw [t.multiplierBlock_realize ops' hp', t.multiplierBlock_realize ops hp, hflags]

/-- A stop is enabled before a motor that is switched on and off, or after it is on, or
alone. -/
theorem switching_order_irrelevant_of_motor :
    let body : Mobilizer := ⟨⟨1⟩, 0, 1⟩
    let motor : Element Float := .drive (.motor ⟨body, 0, 2, none, ⟨⟨0⟩, 0, 3⟩, none⟩)
    let stop : Element Float := .contact (.stop ⟨.upper, body, 0, 1, ⟨1, none⟩, ⟨⟨1⟩, 0, 1⟩, none⟩)
    let t : Topology := ⟨[⟨Handle.ground, 0, 0⟩, body], 1, [1, 1]⟩
    let rs : List (SwitchCall Float) := [⟨motor, true⟩, ⟨stop, true⟩, ⟨motor, false⟩]
    let rs' : List (SwitchCall Float) := [⟨stop, true⟩, ⟨motor, true⟩, ⟨motor, false⟩]
    let r := (t.realize (SwitchCall.runAll rs t.allocate) .velocity).state
    let alone := Operation.runAll [.switch stop true] t.allocate
    SwitchCall.Reordered rs rs' ∧
      SwitchCall.runAll rs t.allocate = SwitchCall.runAll rs' t.allocate ∧
      (SwitchCall.answers rs t.allocate).Perm (SwitchCall.answers rs' t.allocate) ∧
      r.multiplierBlock ⟨1⟩ = .ok (some ⟨0, 1⟩) ∧
      alone.flags = (SwitchCall.runAll rs t.allocate).flags ∧
      r.LaidAlike (t.realize alone .acceleration).state := by
  intro body motor stop t rs rs' r alone
  have hreordered : SwitchCall.Reordered rs rs' := by
    refine ⟨.swap _ _ _, fun c => ?_⟩
    by_cases hc : c = ⟨0⟩
    · subst hc
      rfl
    · have hother (on : Bool) : ¬SwitchCall.concerns c ⟨motor, on⟩ := fun h =>
        hc (Option.some.inj (SwitchCall.concerns_eq_true.1 h)).symm
      simp only [rs, rs', List.filter_cons, hother, Bool.false_eq_true, if_false]
  have hp : Stage.position ≤ Stage.velocity := by decide
  have hp' : Stage.position ≤ Stage.acceleration := by decide
  have hflags : alone.flags = (SwitchCall.runAll rs t.allocate).flags := rfl
  obtain ⟨horder, hlaid⟩ := switching_order_irrelevant (α := Float)
  obtain ⟨hrun, hanswers, -⟩ := horder t.allocate rs rs' hreordered
  obtain ⟨-, hblock, halike⟩ := hlaid t (rs.map SwitchCall.operation) .velocity hp
  exact ⟨hreordered, hrun, hanswers, hblock ⟨1⟩, hflags,
    halike [.switch stop true] .acceleration hp' hflags⟩

end OneSided
