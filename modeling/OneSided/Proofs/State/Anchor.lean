import OneSided.Proofs.Assembly.Answers
import OneSided.Proofs.Assembly.Atomicity
import OneSided.Proofs.Scalar.Order
import OneSided.Proofs.State.Reordering

/-! The anchors of balls that stick to planes, over whole runs. A slot keeps the anchor of a
constraint beside its switch. Main statement: an anchor is what it was last set to, whatever
else happens; a lock tells a drift exactly while it is on and anchored, and the drift from the
point where it took hold stays zero as long as nothing moves its bodies, switches it off or
anchors it elsewhere. -/

namespace OneSided

variable {α : Type}

/-! ### Anchors in slots -/

namespace State

variable {s s' : State α} {c : Handle .constraint}

/-- The anchors of the constraints, in the order of registration. -/
def anchors (s : State α) : List (Option (Vec3 α)) := s.slots.map (·.anchor)

theorem anchor_eq_ok {a : Option (Vec3 α)} :
    s.anchor c = .ok a ↔ s.anchors[c.toNat]? = some a := by
  unfold anchor slot Fault.fetch anchors
  rw [List.getElem?_map]
  cases s.slots[c.toNat]? <;> simp [bind, Except.bind, pure, Except.pure]

/-- A constraint is told of its block by the switches and sizes alone. -/
theorem multiplierBlock_congr (hf : s'.flags = s.flags) (hs : s'.sizes = s.sizes)
    (hst : s'.stale = s.stale) (c : Handle .constraint) :
    s'.multiplierBlock c = s.multiplierBlock c := by
  cases hstale : s.stale with
  | true => rw [multiplierBlock_of_stale hstale, multiplierBlock_of_stale (hst.trans hstale)]
  | false =>
    rw [multiplierBlock_eq_fetch hstale, multiplierBlock_eq_fetch (hst.trans hstale),
      blocks_congr hf hs]

end State

/-- A missing constraint has no slot to keep an anchor in. -/
theorem State.anchors_setAnchor (l : StickingBall α) (p : Option (Vec3 α)) (s : State α) :
    (l.setAnchor s p).state.anchors = s.anchors.set l.constraint.toNat p := by
  have hlen : s.anchors.length = s.slots.length := List.length_map _
  unfold StickingBall.setAnchor setAnchor slot
  by_cases hc : l.constraint.toNat < s.slots.length
  · rw [Fault.fetch_of_lt hc]
    exact List.map_set
  · have hc : s.slots.length ≤ l.constraint.toNat := Nat.le_of_not_lt hc
    rw [Fault.fetch_of_le hc, List.set_eq_of_length_le (hlen ▸ hc)]

variable [Scalar α]

namespace Operation

/-- The anchor that an operation gives to a constraint. -/
def anchors? (op : Operation α) (c : Handle .constraint) : Option (Option (Vec3 α)) :=
  match op with
  | setAnchor l p => if l.constraint = c then some p else none
  | _ => none

/-- The anchor that a run leaves to a constraint which begins with `a`. -/
def anchorAfter (c : Handle .constraint) (ops : List (Operation α)) (a : Option (Vec3 α)) :
    Option (Vec3 α) :=
  (ops.filterMap (·.anchors? c)).getLast?.getD a

variable {c : Handle .constraint} {s : State α} {a : Option (Vec3 α)}

omit [Scalar α] in
theorem anchorAfter_cons (op : Operation α) (ops : List (Operation α)) :
    anchorAfter c (op :: ops) a = anchorAfter c ops ((op.anchors? c).getD a) := by
  unfold anchorAfter
  rw [List.filterMap_cons]
  cases op.anchors? c with
  | none => rfl
  | some p => rw [List.getLast?_cons, Option.getD_some, Option.getD_some]

theorem anchors_run {op : Operation α} (hop : ∀ l p, op ≠ .setAnchor l p) (s : State α) :
    (op.run s).state.anchors = s.anchors := by
  by_cases hon : ∃ e on, op = .switch e on
  · obtain ⟨e, on, rfl⟩ := hon
    change (e.switch s on).state.anchors = _
    rcases e.switch_cases s on with ⟨h, -⟩ | ⟨l, b, -, hb, -, h, -⟩ <;> rw [h]
    -- the slot is written back with its anchor
    exact map_set_of_eq hb rfl
  · exact congrArg (List.map _) (slots_run (fun e on h => hon ⟨e, on, h⟩) hop s)

/-- One operation sets the anchor of a constraint or leaves it. -/
theorem anchor_run (op : Operation α) (ha : s.anchor c = .ok a) :
    (op.run s).state.anchor c = .ok ((op.anchors? c).getD a) := by
  rw [State.anchor_eq_ok] at ha ⊢
  by_cases hop : ∃ l p, op = .setAnchor l p
  · obtain ⟨l, p, rfl⟩ := hop
    change (l.setAnchor s p).state.anchors[c.toNat]? = _
    rw [State.anchors_setAnchor, anchors?]
    by_cases hlc : l.constraint = c
    · subst hlc
      rw [if_pos rfl, List.getElem?_set_self (List.getElem?_eq_some_iff.1 ha).1]
      rfl
    · have hne : l.constraint.toNat ≠ c.toNat := fun h => hlc (Handle.toNat_injective h)
      rw [if_neg hlc, List.getElem?_set_ne hne, ha]
      rfl
  · have hnone : op.anchors? c = none := by
      cases op with
      | setAnchor l p => exact absurd ⟨l, p, rfl⟩ hop
      | _ => rfl
    rw [hnone, anchors_run (fun l p h => hop ⟨l, p, h⟩) s, ha]
    rfl

theorem anchor_runAll (ops : List (Operation α)) (ha : s.anchor c = .ok a) :
    (runAll ops s).anchor c = .ok (anchorAfter c ops a) := by
  induction ops generalizing s a with
  | nil => exact ha
  | cons op ops ih => rw [runAll_cons, anchorAfter_cons, ih (op.anchor_run ha)]

end Operation

/-! ### Drift -/

/-- The operation writes no motion of the two bodies of a ball, and neither disables its lock
nor sets its anchor. -/
def Operation.KeepsHold (op : Operation α) (l : StickingBall α) : Prop :=
  match op with
  | modifyMotion b _ => b ≠ l.ball.base ∧ b ≠ l.ball.follower
  | switch e on => e.constraint? = some l.constraint → on = true
  | setAnchor k _ => k.constraint ≠ l.constraint
  | _ => True

namespace StickingBall

/-- The lock is on, and anchored at `a` while the point of contact is at `p`. -/
structure Anchored (l : StickingBall α) (s : State α) (a p : Vec3 α) : Prop where
  enabled : s.isEnabled l.constraint = .ok true
  anchor : l.anchor s = .ok (some a)
  contact : l.contactCoordinates s = .ok p

variable {l : StickingBall α} {s : State α} {a p : Vec3 α}

theorem Anchored.drift (h : l.Anchored s a p) : l.drift s = .ok (some ⟨p.x - a.x, p.y - a.y⟩) := by
  rw [StickingBall.drift, h.enabled, h.anchor, h.contact]
  rfl

theorem drift_eq_none_iff {on : Bool} {a : Option (Vec3 α)}
    (hon : s.isEnabled l.constraint = .ok on) (ha : l.anchor s = .ok a) :
    l.drift s = .ok none ↔ ¬(on = true ∧ a.isSome = true) := by
  rw [drift, hon, ha]
  cases on with
  | false => exact iff_of_true rfl fun h => Bool.false_ne_true h.1
  | true =>
    cases a with
    | none => exact iff_of_true rfl fun h => Bool.false_ne_true h.2
    | some a =>
      refine iff_of_false (fun h => ?_) fun h => h ⟨rfl, rfl⟩
      cases hp : l.contactCoordinates s <;> simp [hp, bind, Except.bind, pure, Except.pure] at h

end StickingBall

omit [Scalar α] in
theorem Ball.SeesAlike.of_motions {g : Ball α} {s s' : State α} (h : s'.motions = s.motions) :
    g.SeesAlike s s' := by
  constructor <;> rw [State.motion, h] <;> rfl

namespace Operation

variable {op : Operation α} {l : StickingBall α}

theorem KeepsHold.seesAlike (h : op.KeepsHold l) (s : State α) :
    l.ball.SeesAlike s (op.run s).state := by
  cases op with
  | modifyMotion b change =>
    have hne {b' : Handle .body} (hb : b ≠ b') :
        ((modifyMotion b change).run s).state.motion b' = s.motion b' := by
      have hnat : b.toNat ≠ b'.toNat := fun h => hb (Handle.toNat_injective h)
      rw [run_modifyMotion]
      unfold State.motion Fault.fetch
      rw [List.getElem?_modify_ne _ _ hnat]
    exact ⟨hne h.1, hne h.2⟩
  | setCoordinate => exact .of_motions (by rw [run_setCoordinate])
  | setSpeed => exact .of_motions (by rw [run_setSpeed])
  | setRate => exact .of_motions (by rw [run_setRate])
  | _ => exact .of_motions (sameMotion_run rfl s).motions

omit [Scalar α] in
theorem KeepsHold.anchors? (h : op.KeepsHold l) : op.anchors? l.constraint = none := by
  cases op with
  | setAnchor k p => exact if_neg h
  | _ => rfl

/-- Only a switch flips a constraint, and to the side that it asks for. -/
theorem switches_of_flips {c : Handle .constraint} {s : State α} {on : Bool}
    (h : op.flips? c s = some on) : ∃ e, op = .switch e on ∧ e.constraint? = some c := by
  cases op with
  | switch e on' =>
    unfold flips? at h
    cases ha : (e.switch s on').answer with
    | error f => simp only [ha, reduceCtorEq] at h
    | ok flipped =>
      cases flipped with
      | false => simp only [ha, reduceCtorEq] at h
      | true =>
        simp only [ha, Option.ite_none_right_eq_some, Option.some.injEq] at h
        obtain ⟨hc, rfl⟩ := h
        exact ⟨e, rfl, hc⟩
  | _ => cases h

theorem KeepsHold.flips_ne (h : op.KeepsHold l) (s : State α) :
    op.flips? l.constraint s ≠ some false := by
  intro hflip
  obtain ⟨e, rfl, hc⟩ := switches_of_flips hflip
  exact absurd (h hc) Bool.false_ne_true

end Operation

namespace StickingBall

variable {l : StickingBall α} {s : State α} {a p : Vec3 α} {op : Operation α}

theorem Anchored.run (h : l.Anchored s a p) (hop : op.KeepsHold l) :
    l.Anchored (op.run s).state a p where
  enabled := by
    rcases op.isEnabled_run h.enabled with ⟨-, hon⟩ | ⟨hflip, -⟩
    · exact hon
    -- it is on, so that a flip turns it off
    · exact absurd hflip (hop.flips_ne s)
  anchor := by
    have hanchor := op.anchor_run h.anchor
    rwa [hop.anchors?] at hanchor
  contact := ((hop.seesAlike s).measure _).trans h.contact

theorem Anchored.runAll {ops : List (Operation α)} (h : l.Anchored s a p)
    (hops : ∀ op ∈ ops, op.KeepsHold l) : l.Anchored (Operation.runAll ops s) a p := by
  induction ops generalizing s with
  | nil => exact h
  | cons op ops ih =>
    rw [List.forall_mem_cons] at hops
    exact ih (h.run hops.1) hops.2

/-- Anchored where it is, a ball begins without drift. -/
theorem anchored_setAnchor {b : Option (Vec3 α)} (hon : s.isEnabled l.constraint = .ok true)
    (hb : l.anchor s = .ok b) (hp : l.contactCoordinates s = .ok p) (a : Vec3 α) :
    l.Anchored ((Operation.setAnchor l (some a)).run s).state a p where
  enabled := by
    have hflags : ((Operation.setAnchor l (some a)).run s).state.flags = s.flags :=
      Operation.flags_run (by simp) s
    rw [State.isEnabled_eq_ok] at hon ⊢
    rw [hflags, hon]
  anchor := by
    have ha := (Operation.setAnchor l (some a)).anchor_run hb
    rwa [Operation.anchors?, if_pos rfl] at ha
  contact := by
    have hsame : s.SameMotion ((Operation.setAnchor l (some a)).run s).state :=
      Operation.sameMotion_run rfl s
    exact ((Ball.SeesAlike.of_motions hsame.motions).measure _).trans hp

end StickingBall

/-! ### Whole runs -/

/-- What setting an anchor leaves as it was: all flags, and all that there is of
multipliers. -/
structure State.SameForces (s s' : State α) : Prop where
  flags : s'.flags = s.flags
  stale : s'.stale = s.stale
  multipliers : s'.multipliers = s.multipliers
  laidAlike : s.LaidAlike s'

theorem StickingBall.sameForces_setAnchor (l : StickingBall α) (p : Option (Vec3 α))
    (s : State α) : s.SameForces (l.setAnchor s p).state := by
  rcases l.setAnchor_cases p s with ⟨f, h⟩ | ⟨a, ha, h⟩ <;> rw [h]
  · exact ⟨rfl, rfl, rfl, State.laidAlike_of_blocks fun _ => rfl⟩
  · have hflags := map_set_of_eq (f := Slot.enabled) (b := { a with anchor := p }) ha rfl
    have hsizes := map_set_of_eq (f := Slot.size) (b := { a with anchor := p }) ha rfl
    exact ⟨hflags, rfl, rfl,
      State.laidAlike_of_blocks (State.multiplierBlock_congr hflags hsizes rfl)⟩

theorem Topology.anchor_allocate {t : Topology} {c : Handle .constraint} {n : Nat}
    (h : t.sizes[c.toNat]? = some n) : (t.allocate : State α).anchor c = .ok none := by
  rw [State.anchor_eq_ok, State.anchors, allocate, List.map_map, List.getElem?_map, h]
  rfl

/-- A contact that can stick tells what its lock tells. -/
theorem Contact.of_sticking {c : Contact α} {l : StickingBall α}
    (hc : Unilateral.sticking? c = some l) (s : State α) :
    Unilateral.isEnabled c s = s.isEnabled l.constraint ∧
      Unilateral.contactCoordinates c s = (l.contactCoordinates s).map some := by
  cases c with
  | gripping c =>
    cases hc
    refine ⟨rfl, ?_⟩
    change (c.lock.contactCoordinates s >>= fun q => pure (some q)) = _
    cases c.lock.contactCoordinates s <;> rfl
  | stop | gliding | prescribed => cases hc

/-- Anchors over any run from a new state of an assembly. The anchor of a lock that keeps a
ball from slipping is what the run has set it to last, and setting the anchor of another lock
does not count. The lock tells a drift exactly while it is on and has an anchor, and one that
is off or without an anchor asks for no bodies. Anchored at the point of contact, as its
contact tells it, it has a drift of zero, and goes on to have it whatever is done, except for
moving one of the two bodies, switching it off and anchoring it anew.
In every state, setting an anchor leaves the switches and multipliers alone. -/
theorem anchors_remembered [Scalar.Cancels α] (steps : List (BuildStep α))
    (ops : List (Operation α)) (hw : (Workshop.build steps).topology.Addressable) :
    let w := Workshop.build steps
    let s := Operation.runAll ops w.topology.allocate
    (∀ l : StickingBall α, .sticking l ∈ w.locks →
      let last := Operation.anchorAfter l.constraint ops none
      l.anchor s = .ok last ∧
      (∀ k ∈ w.locks, k ≠ .sticking l → k.constraint ≠ l.constraint) ∧
      (l.drift s = .ok none ↔ ¬(s.isEnabled l.constraint = .ok true ∧ last.isSome = true)) ∧
      (l.ball.Within w.topology → ∃ d, l.drift s = .ok d ∧
        (d.isSome = true ↔ s.isEnabled l.constraint = .ok true ∧ last.isSome = true)) ∧
      ∀ (c : Contact α) (p : Vec3 α) (more : List (Operation α)),
        Unilateral.sticking? c = some l → Unilateral.isEnabled c s = .ok true →
        Unilateral.contactCoordinates c s = .ok (some p) →
        Scalar.isFinite p.x = true → Scalar.isFinite p.y = true →
        (∀ op ∈ more, Operation.KeepsHold op l) →
          l.drift (Operation.runAll (.setAnchor l (some p) :: more) s) = .ok (some ⟨0, 0⟩)) ∧
    ∀ (l : StickingBall α) (p : Option (Vec3 α)) (s : State α),
      s.SameForces (l.setAnchor s p).state := by
  intro w s
  have hfits : w.topology.Fits s := (Topology.Fits.allocate _).runAll ops
  refine ⟨fun l hl => ?_, StickingBall.sameForces_setAnchor⟩
  intro last
  have hsize := (Workshop.build_sound steps).size_of_mem hw hl
  have hlast : l.anchor s = .ok last :=
    Operation.anchor_runAll ops (Topology.anchor_allocate hsize)
  have hplace : l.constraint.toNat < w.topology.sizes.length :=
    (List.getElem?_eq_some_iff.1 hsize).1
  obtain ⟨on, hon⟩ := hfits.isEnabled hplace
  have hoff : l.drift s = .ok none ↔
      ¬(s.isEnabled l.constraint = .ok true ∧ last.isSome = true) := by
    rw [StickingBall.drift_eq_none_iff hon hlast, hon, Except.ok.injEq]
  refine ⟨hlast, fun k hk hkl => ?_, hoff, fun hball => ?_,
    fun c p more hc hon hp hx hy hmore => ?_⟩
  · obtain ⟨i, hi⟩ := List.mem_iff_getElem?.1 hk
    obtain ⟨j, hj⟩ := List.mem_iff_getElem?.1 hl
    refine Workshop.constraint_ne hw (fun hij => hkl ?_) hi hj
    subst hij
    exact Option.some.inj (hi.symm.trans hj)
  · have hwithin : (Lock.sticking l).Within w.topology := ⟨hplace, hball⟩
    obtain ⟨p, hp⟩ := (StickingBall.answers hfits hwithin).contactCoordinates
    by_cases h : s.isEnabled l.constraint = .ok true ∧ last.isSome = true
    · obtain ⟨a, ha⟩ := Option.isSome_iff_exists.1 h.2
      have hanchored : l.Anchored s a p := ⟨h.1, hlast.trans (congrArg _ ha), hp⟩
      exact ⟨_, hanchored.drift, iff_of_true rfl h⟩
    · exact ⟨_, hoff.2 h, iff_of_false Bool.false_ne_true h⟩
  · obtain ⟨henabled, hcoordinates⟩ := Contact.of_sticking hc s
    rw [henabled] at hon
    have hcontact : l.contactCoordinates s = .ok p := by
      rw [hcoordinates] at hp
      cases hq : l.contactCoordinates s with
      | error f => simp [hq, Except.map] at hp
      | ok q => simpa [hq, Except.map] using hp
    have hstart := StickingBall.anchored_setAnchor hon hlast hcontact p
    rw [Operation.runAll_cons, (hstart.runAll hmore).drift, Scalar.Cancels.sub_self hx,
      Scalar.Cancels.sub_self hy]

/-- Two points on the ground, set down one after the other. The first one is anchored anew where
it is, and then the second one is moved, anchored elsewhere and switched on. -/
theorem anchors_remembered_of_two :
    let ball (follower : Handle .body) : Ball Float :=
      ⟨Handle.ground, ⟨.id, 0⟩, follower, ⟨1, 2, 0⟩, 0⟩
    let first : StickingBall Float := ⟨⟨0⟩, ball ⟨1⟩⟩
    let second : StickingBall Float := ⟨⟨1⟩, ball ⟨2⟩⟩
    let touch : Contact Float :=
      .gripping ⟨.point, first, ⟨1, none⟩, ⟨0, 0, 0, none⟩, none⟩
    let steps : List (BuildStep Float) :=
      [.body 0, .body 0, .make (.stickingBall (ball ⟨1⟩)), .make (.stickingBall (ball ⟨2⟩))]
    let w := Workshop.build steps
    let ops : List (Operation Float) :=
      [.setAnchor first (some 0), .switch (.contact touch) true, .realize w.topology .position,
        .setAnchor second (some 0), .setAnchor second none]
    let s := Operation.runAll ops w.topology.allocate
    let p : Vec3 Float := (ball ⟨1⟩).contactCoordinates (.atRest .id) (.atRest .id)
    let more : List (Operation Float) :=
      [.modifyMotion ⟨2⟩ fun m => { m with velocity := ⟨1, 0, 0⟩ }, .setAnchor second (some p),
        .switch (.lock (.sticking second)) true, .realize w.topology .position, .setTime 1]
    w.topology.Addressable ∧ .sticking first ∈ w.locks ∧ .sticking second ∈ w.locks ∧
      first.anchor s = .ok (some 0) ∧ second.anchor s = .ok none ∧
      (∃ d, first.drift s = .ok d ∧ d.isSome = true) ∧
      Unilateral.contactCoordinates touch s = .ok (some p) ∧
      first.drift (Operation.runAll (.setAnchor first (some p) :: more) s) =
        .ok (some ⟨0, 0⟩) ∧
      s.SameForces (first.setAnchor s none).state := by
  intro ball first second touch steps w ops s p more
  have hw : w.topology.Addressable := by
    change 3 + (3 + 0) ≤ UInt32.size
    decide
  have hfirst : .sticking first ∈ w.locks := List.mem_cons_self
  have hsecond : .sticking second ∈ w.locks := List.mem_cons_of_mem _ List.mem_cons_self
  have hball : first.ball.Within w.topology := ⟨by decide, by decide⟩
  have hstill : s.motions = [.atRest .id, .atRest .id, .atRest .id] :=
    (Operation.sameMotion_runAll (by simp [ops, Operation.moves]) _).motions
  have hcarried : first.ball.Carried s (.atRest .id) (.atRest .id) := by
    constructor <;> rw [State.motion, hstill] <;> rfl
  have htouch : Unilateral.sticking? touch = some first := rfl
  have hcoordinates : Unilateral.contactCoordinates touch s = .ok (some p) := by
    rw [(Contact.of_sticking htouch s).2]
    exact congrArg _ (hcarried.measure Ball.contactCoordinates)
  have hx : Scalar.isFinite p.x = true := by decide +kernel
  have hy : Scalar.isFinite p.y = true := by decide +kernel
  have hmore : ∀ op ∈ more, op.KeepsHold first := by
    simp only [more, List.forall_mem_cons, Operation.KeepsHold]
    exact ⟨by decide, by decide, fun _ => trivial, trivial, trivial, List.forall_mem_nil _⟩
  have hon : s.isEnabled first.constraint = .ok true := State.isEnabled_eq_ok.2 (by decide +kernel)
  have hlast : Operation.anchorAfter first.constraint ops none = some 0 := rfl
  have hlast' : Operation.anchorAfter second.constraint ops none = none := rfl
  obtain ⟨hlocks, hforces⟩ := anchors_remembered steps ops hw
  obtain ⟨hanchor, -, -, hdrift, hstays⟩ := hlocks first hfirst
  obtain ⟨d, hd, hsome⟩ := hdrift hball
  have hanchor' := (hlocks second hsecond).1
  refine ⟨hw, hfirst, hsecond, hanchor.trans (congrArg _ hlast), hanchor'.trans (congrArg _ hlast'),
    ⟨d, hd, hsome.2 ⟨hon, by rw [hlast]; rfl⟩⟩, hcoordinates, ?_, hforces first none s⟩
  have hon' : Unilateral.isEnabled touch s = .ok true := (Contact.of_sticking htouch s).1.trans hon
  exact hstays touch p more htouch hon' hcoordinates hx hy hmore

end OneSided
