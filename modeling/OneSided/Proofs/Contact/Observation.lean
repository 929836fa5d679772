import OneSided.Proofs.Assembly.Workshop
import OneSided.Proofs.Contact.Touch
import OneSided.Proofs.State.Frame

/-! What a contact tells of itself, enabled or not. An enabled contact asks its lock, and a
disabled one computes the same from what it looks at: a stop at the entries of its
coordinate and at where its body is, a contact of a ball at the motions of both bodies.
Main statement: nothing else of a state makes a difference. -/

namespace OneSided

variable {α : Type}

/-! ### What a contact looks at -/

/-- The second state has the same motions for both bodies of a ball. -/
structure Ball.SeesAlike (g : Ball α) (s s' : State α) : Prop where
  base : s'.motion g.base = s.motion g.base
  follower : s'.motion g.follower = s.motion g.follower

/-- The second state has the same entries for the coordinate of a stop, and its body is at
the same place. -/
structure Stop.SeesAlike (c : Stop α) (s s' : State α) : Prop where
  coordinate : c.body.coordinate s' c.which = c.body.coordinate s c.which
  speed : c.body.speed s' c.which = c.body.speed s c.which
  rate : c.body.rate s' c.which = c.body.rate s c.which
  pose : (c.body.motion s').map (·.pose) = (c.body.motion s).map (·.pose)

/-- The second state has the same of all that a contact looks at. -/
def Contact.SeesAlike (c : Contact α) (s s' : State α) : Prop :=
  match c with
  | stop c => c.SeesAlike s s'
  | gliding c => c.lock.ball.SeesAlike s s'
  | gripping c => c.lock.ball.SeesAlike s s'
  | prescribed _ => True

theorem Contact.SeesAlike.of_sameMotion {s s' : State α} (h : s.SameMotion s') (c : Contact α) :
    c.SeesAlike s s' := by
  have hm (b : Handle .body) : s'.motion b = s.motion b := by rw [State.motion, h.motions]; rfl
  cases c with
  | stop c =>
    refine ⟨?_, ?_, ?_, ?_⟩
    · simp only [Mobilizer.coordinate, State.coordinate, h.q]
    · simp only [Mobilizer.speed, State.speed, h.u]
    · simp only [Mobilizer.rate, State.rate, h.udot]
    · simp only [Mobilizer.motion, hm]
  | gliding c => exact ⟨hm _, hm _⟩
  | gripping c => exact ⟨hm _, hm _⟩
  | prescribed c => trivial

/-! ### Asking a lock -/

section Asking

variable {β γ : Type} {s s' : State α} {c : Handle .constraint}

/-- What is told in place of a lock is what the lock reports once it is enabled. -/
theorem State.whileEnabled_of_told {on : Bool} {ask ask' told : Except (Fault α) β}
    (hs : s.isEnabled c = .ok on) (hs' : s'.isEnabled c = .ok true) (hask : ask' = ask)
    (htold : told = (do let _ ← s.isEnabled c; ask)) :
    s'.whileEnabled c ask' = told.map some := by
  rw [whileEnabled, hs', hask, htold, hs]
  cases ask <;> rfl

theorem State.whileEnabled_map {ask : Except (Fault α) β} {f : β → γ} {told : Except (Fault α) γ}
    (h : told = ask.map f) :
    (do return (← s.whileEnabled c ask).map f) = s.whileEnabled c told := by
  unfold whileEnabled
  cases s.isEnabled c with
  | error => rfl
  | ok on => cases on <;> cases ask <;> cases h <;> rfl

/-- Whether a constraint is missing only depends on how many there are. -/
theorem State.isEnabled_seq (h : s'.slots.length = s.slots.length) (x : Except (Fault α) β) :
    (do let _ ← s'.isEnabled c; x) = (do let _ ← s.isEnabled c; x) := by
  unfold isEnabled slot
  by_cases hc : c.toNat < s.slots.length
  · rw [Fault.fetch_of_lt hc, Fault.fetch_of_lt (h ▸ hc)]
    rfl
  · rw [Fault.fetch_of_le (Nat.le_of_not_lt hc), Fault.fetch_of_le (h ▸ Nat.le_of_not_lt hc)]

variable {g : Ball α}

theorem Ball.SeesAlike.measure (h : g.SeesAlike s s') (m : Ball α → Motion α → Motion α → β) :
    g.measure s' m = g.measure s m := by
  rw [Ball.measure, h.base, h.follower]
  rfl

/-- What tells a measure of a ball, lock enabled or not, tells it alike. -/
theorem Ball.SeesAlike.told {told : State α → Except (Fault α) β}
    {m : Ball α → Motion α → Motion α → β} (h : g.SeesAlike s s')
    (hn : s'.slots.length = s.slots.length)
    (ht : ∀ s, told s = (do let _ ← s.isEnabled c; g.measure s m)) : told s' = told s := by
  rw [ht, ht, h.measure, State.isEnabled_seq hn]

theorem Mobilizer.origin_eq (m : Mobilizer) (s : State α) :
    m.origin s = ((m.motion s).map (·.pose)).map (·.offset) := by
  unfold origin
  cases m.motion s <;> rfl

end Asking

variable [Scalar α]

/-! ### Contacts that a constructor has made -/

/-- The lock of a stop holds the stopped coordinate at the limit. -/
structure Stop.Coherent (c : Stop α) : Prop where
  place : c.body.place c.which = (.ok c.lock.place : Except (Rejection α) Nat)
  value : c.lock.value = c.limit

def Contact.Coherent : Contact α → Prop
  | stop c => c.Coherent
  | _ => True

theorem Part.coherent_of_make {p : Part α} {t t' : Topology} {c : Contact α}
    (h : p.make t = .ok (.contact c, t')) : c.Coherent := by
  obtain ⟨hp, hy, -⟩ := of_make h
  cases p with
  | stop =>
    cases hy
    exact ⟨Mobilizer.place_eq_ok.2 ⟨hp.2, rfl⟩, rfl⟩
  | glidingTouch | grippingPoint | grippingSphere =>
    obtain ⟨plane, hc⟩ := hy
    cases hc
    trivial
  | _ => cases hy

namespace Workshop

/-- The contact was made in the workshop, or is a copy of one that was, under a handle. -/
def Holds (w : Workshop α) (c : Contact α) : Prop :=
  ∃ k, .contact k ∈ w.made ∧ (c = k ∨ ∃ h, c = Unilateral.withHandle k h)

theorem Holds.coherent {steps : List (BuildStep α)} {c : Contact α}
    (hc : (build steps).Holds c) : c.Coherent := by
  obtain ⟨k, hk, hc⟩ := hc
  obtain ⟨p, t, t', hp⟩ := exists_make_of_mem hk
  have h := Part.coherent_of_make hp
  rcases hc with rfl | ⟨n, rfl⟩
  · exact h
  · cases k with
    | stop c => exact ⟨h.place, h.value⟩
    | gliding | gripping | prescribed => trivial

end Workshop

/-! ### What contacts tell without their locks -/

namespace Stop

variable {c : Stop α}

omit [Scalar α] in
theorem Coherent.entries (hc : c.Coherent) (s : State α) :
    c.body.coordinate s c.which = s.coordinate c.lock.place ∧
    c.body.speed s c.which = s.speed c.lock.place ∧
    c.body.rate s c.which = s.rate c.lock.place :=
  Mobilizer.entries_of_place hc.place s

theorem Coherent.positionError (hc : c.Coherent) (s : State α) :
    c.positionError s = (do
      let _ ← s.isEnabled c.lock.constraint
      return (← c.body.coordinate s c.which) - c.limit) := by
  refine State.whileEnabled_bind (f := id) (fun _ => rfl) rfl ?_
  rw [(hc.entries s).1, hc.value]
  exact (id_map _).symm

omit [Scalar α] in
theorem Coherent.velocityError (hc : c.Coherent) (s : State α) :
    c.velocityError s = (do
      let _ ← s.isEnabled c.lock.constraint
      c.body.speed s c.which) := by
  refine State.whileEnabled_bind (f := id) (fun _ => rfl) rfl ?_
  rw [(hc.entries s).2.1]
  exact (id_map _).symm

omit [Scalar α] in
theorem Coherent.accelerationError (hc : c.Coherent) (s : State α) :
    c.accelerationError s = (do
      let _ ← s.isEnabled c.lock.constraint
      c.body.rate s c.which) := by
  refine State.whileEnabled_bind (f := id) (fun _ => rfl) rfl ?_
  rw [(hc.entries s).2.2]
  exact (id_map _).symm

end Stop

/-! ### Observations -/

/-- All that a contact tells of itself in a state. -/
structure Observation (α : Type) where
  positionError : Except (Fault α) α
  velocityError : Except (Fault α) α
  accelerationError : Except (Fault α) α
  isProximal : α → Except (Fault α) Bool
  location : Except (Fault α) (Vec3 α)
  slipVelocity : Except (Fault α) (Option (Vec2 α))
  contactCoordinates : Except (Fault α) (Option (Vec3 α))
  restitution : ImpactRange α → α → Except (Fault α) α
  friction : α → α → Except (Fault α) (Option α)

namespace Contact

def observe (c : Contact α) (s : State α) : Observation α where
  positionError := Unilateral.positionError c s
  velocityError := Unilateral.velocityError c s
  accelerationError := Unilateral.accelerationError c s
  isProximal := Unilateral.isProximal c s
  location := Unilateral.location c s
  slipVelocity := Unilateral.slipVelocity c s
  contactCoordinates := Unilateral.contactCoordinates c s
  restitution := Unilateral.restitution c s
  friction := Unilateral.friction c s

variable {c : Contact α} {s s' : State α}

/-- What is told of restitution and friction does not look at the state. -/
theorem observe_congr (hp : Unilateral.positionError c s' = Unilateral.positionError c s)
    (hv : Unilateral.velocityError c s' = Unilateral.velocityError c s)
    (ha : Unilateral.accelerationError c s' = Unilateral.accelerationError c s)
    (hl : Unilateral.location c s' = Unilateral.location c s)
    (hs : Unilateral.slipVelocity c s' = Unilateral.slipVelocity c s)
    (hc : Unilateral.contactCoordinates c s' = Unilateral.contactCoordinates c s) :
    c.observe s' = c.observe s := by
  have hm : Unilateral.isProximal c s' = Unilateral.isProximal c s := by
    funext margin
    rw [Unilateral.isProximal, hp]
    rfl
  have hr : Unilateral.restitution c s' = Unilateral.restitution c s := by cases c <;> rfl
  have hf : Unilateral.friction c s' = Unilateral.friction c s := by cases c <;> rfl
  simp only [observe, hp, hv, ha, hm, hl, hs, hc, hr, hf]

/-- A contact tells the same wherever it looks at the same. -/
theorem observe_of_seesAlike (hc : c.Coherent) (hn : s'.slots.length = s.slots.length)
    (h : c.SeesAlike s s') : c.observe s' = c.observe s := by
  cases c with
  | stop c =>
    have hc : c.Coherent := hc
    have h : c.SeesAlike s s' := h
    have hp : c.positionError s' = c.positionError s := by
      rw [hc.positionError, hc.positionError, h.coordinate, State.isEnabled_seq hn]
    have hv : c.velocityError s' = c.velocityError s := by
      rw [hc.velocityError, hc.velocityError, h.speed, State.isEnabled_seq hn]
    have ha : c.accelerationError s' = c.accelerationError s := by
      rw [hc.accelerationError, hc.accelerationError, h.rate, State.isEnabled_seq hn]
    have hl : c.body.origin s' = c.body.origin s := by
      rw [Mobilizer.origin_eq, Mobilizer.origin_eq, h.pose]
    exact observe_congr hp hv ha hl rfl rfl
  | gliding c =>
    have h : c.lock.ball.SeesAlike s s' := h
    have hp : c.positionError s' = c.positionError s := h.told hn c.positionError_eq
    have hv : c.velocityError s' = c.velocityError s := h.told hn c.velocityError_eq
    have ha : c.accelerationError s' = c.accelerationError s := h.told hn c.accelerationError_eq
    exact observe_congr hp hv ha (h.measure _) rfl rfl
  | gripping c =>
    have h : c.lock.ball.SeesAlike s s' := h
    have hp : c.positionError s' = c.positionError s := h.told hn c.positionError_eq
    have hv : c.velocityError s' = c.velocityError s := h.told hn c.velocityError_eq
    have ha : c.accelerationError s' = c.accelerationError s := h.told hn c.accelerationError_eq
    have hl : c.location s' = c.location s := by
      unfold GrippingTouch.location
      split <;> exact h.measure _
    have hs : c.slipVelocity s' = c.slipVelocity s := h.told hn c.slipVelocity_eq
    have hk : c.lock.contactCoordinates s' = c.lock.contactCoordinates s := h.measure _
    exact observe_congr hp hv ha hl (congrArg (fun x => do return some (← x)) hs)
      (congrArg (fun x => do return some (← x)) hk)
  | prescribed c => exact observe_congr rfl rfl rfl rfl rfl rfl

theorem observe_runAll (hc : c.Coherent) {ops : List (Operation α)}
    (ho : ∀ op ∈ ops, op.moves = false) (s : State α) :
    c.observe (Operation.runAll ops s) = c.observe s := by
  have hn : (Operation.runAll ops s).slots.length = s.slots.length := by
    have h := congrArg List.length (Operation.sizes_runAll ops s)
    simpa only [State.sizes, List.length_map] using h
  exact observe_of_seesAlike hc hn (.of_sameMotion (Operation.sameMotion_runAll ho s) c)

end Contact

theorem Assembly.proximal_congr {a : Assembly α} {s s' : State α}
    (h : ∀ c ∈ a.contacts, c.observe s' = c.observe s) (margin : α) :
    a.proximal s' margin = a.proximal s margin := by
  have hnear : ∀ cs : List (Contact α), (∀ c ∈ cs, c.observe s' = c.observe s) →
      cs.mapM (fun c => Unilateral.isProximal c s' margin) =
        cs.mapM fun c => Unilateral.isProximal c s margin := by
    intro cs hcs
    induction cs with
    | nil => rfl
    | cons c cs ih =>
      rw [List.forall_mem_cons] at hcs
      have hc : Unilateral.isProximal c s' = Unilateral.isProximal c s :=
        congrArg Observation.isProximal hcs.1
      rw [List.mapM_cons, List.mapM_cons, hc, ih hcs.2]
  rw [proximal, hnear _ h]
  rfl

/-! ### What the locks of contacts report -/

namespace Lock

/-- The error of a lock along its last direction, told while it is enabled. Speed locks
hold no position. -/
def positionError (l : Lock α) (s : State α) : Except (Fault α) (Option α) :=
  match l with
  | coordinate l => l.positionError s
  | speed _ => .ok none
  | gliding l => l.positionError s
  | sticking l => l.positionError s

def velocityError (l : Lock α) (s : State α) : Except (Fault α) (Option α) :=
  match l with
  | coordinate l => l.velocityError s
  | speed l => l.velocityError s
  | gliding l => l.velocityError s
  | sticking l => return (← l.velocityErrors s).map (·.z)

def accelerationError (l : Lock α) (s : State α) : Except (Fault α) (Option α) :=
  match l with
  | coordinate l => l.accelerationError s
  | speed l => l.accelerationError s
  | gliding l => l.accelerationError s
  | sticking l => return (← l.accelerationErrors s).map (·.z)

/-- The slip that a sticking ball tells while it is enabled. -/
def slipVelocity (l : Lock α) (s : State α) : Except (Fault α) (Option (Vec2 α)) :=
  match l with
  | sticking l => return (← l.velocityErrors s).map fun e => ⟨e.x, e.y⟩
  | _ => .ok none

end Lock

namespace StickingBall

variable (l : StickingBall α) (s : State α)

theorem velocityError_eq :
    (Lock.sticking l).velocityError s =
      s.whileEnabled l.constraint (l.ball.measure s Ball.separationRate) := by
  rw [Lock.velocityError, l.velocityErrors_eq]
  exact State.whileEnabled_map (Ball.measure_map fun _ _ _ => rfl)

theorem accelerationError_eq :
    (Lock.sticking l).accelerationError s =
      s.whileEnabled l.constraint (l.ball.measure s Ball.separationSecondRate) := by
  rw [Lock.accelerationError, l.accelerationErrors_eq]
  exact State.whileEnabled_map (Ball.measure_map fun _ _ _ => rfl)

theorem slipVelocity_eq :
    (Lock.sticking l).slipVelocity s =
      s.whileEnabled l.constraint (l.ball.measure s Ball.slipVelocity) := by
  rw [Lock.slipVelocity, l.velocityErrors_eq]
  exact State.whileEnabled_map (Ball.measure_map fun _ _ _ => rfl)

end StickingBall

/-- What a contact tells while its lock is disabled is what the lock reports while enabled. -/
structure Contact.Continues (c : Contact α) (l : Lock α) (s s' : State α) : Prop where
  position : l.positionError s' = (Unilateral.positionError c s).map some
  velocity : l.velocityError s' = (Unilateral.velocityError c s).map some
  acceleration : l.accelerationError s' = (Unilateral.accelerationError c s).map some
  slip : l.slipVelocity s' = Unilateral.slipVelocity c s

theorem Contact.continues_of_seesAlike {c : Contact α} {l : Lock α} {s s' : State α}
    (hc : c.Coherent) (hl : c.lock? = some l) (hs : s.isEnabled l.constraint = .ok false)
    (hs' : s'.isEnabled l.constraint = .ok true) (h : c.SeesAlike s s') : c.Continues l s s' := by
  cases c with
  | stop c =>
    cases hl
    have hc : c.Coherent := hc
    have h : c.SeesAlike s s' := h
    obtain ⟨hq, hu, hr⟩ := hc.entries s'
    refine ⟨State.whileEnabled_of_told hs hs' ?_ (hc.positionError s),
      State.whileEnabled_of_told hs hs' (hu.symm.trans h.speed) (hc.velocityError s),
      State.whileEnabled_of_told hs hs' (hr.symm.trans h.rate) (hc.accelerationError s), rfl⟩
    rw [← hq, h.coordinate, hc.value]
  | gliding c =>
    cases hl
    have h : c.lock.ball.SeesAlike s s' := h
    exact ⟨State.whileEnabled_of_told hs hs' (h.measure _) (c.positionError_eq s),
      State.whileEnabled_of_told hs hs' (h.measure _) (c.velocityError_eq s),
      State.whileEnabled_of_told hs hs' (h.measure _) (c.accelerationError_eq s), rfl⟩
  | gripping c =>
    cases hl
    have h : c.lock.ball.SeesAlike s s' := h
    refine ⟨State.whileEnabled_of_told hs hs' (h.measure _) (c.positionError_eq s), ?_, ?_, ?_⟩
    · rw [c.lock.velocityError_eq]
      exact State.whileEnabled_of_told hs hs' (h.measure _) (c.velocityError_eq s)
    · rw [c.lock.accelerationError_eq]
      exact State.whileEnabled_of_told hs hs' (h.measure _) (c.accelerationError_eq s)
    · rw [c.lock.slipVelocity_eq]
      exact State.whileEnabled_of_told hs hs' (h.measure _) (c.slipVelocity_eq s)
  | prescribed c => cases hl

omit [Scalar α] in
theorem Topology.lengths_of_matchesState {t : Topology} {s : State α}
    (h : t.matchesState s = true) :
    s.q.length = t.coordinates ∧ s.motions.length = t.bodies.length ∧
      s.slots.length = t.sizes.length := by
  simpa only [matchesState, decide_eq_true_eq] using h

omit [Scalar α] in
theorem Topology.slots_of_matchesState {t : Topology} {s : State α}
    (h : t.matchesState s = true) : s.slots.length = t.sizes.length :=
  (lengths_of_matchesState h).2.2

/-- What a contact of an assembly tells of itself is settled by what it looks at: it is the
same in any two states of the assembly that have the same of that, whatever else they
differ in. So a contact that is disabled tells what its lock reports while enabled, and a
run that moves nothing changes neither what a contact tells nor which contacts are
proximal. -/
theorem observations_of_sight (steps : List (BuildStep α)) :
    let w := Workshop.build steps
    (∀ c, w.Holds c →
      (∀ s s', w.topology.matchesState s = true → w.topology.matchesState s' = true →
        c.SeesAlike s s' → c.observe s' = c.observe s) ∧
      (∀ l s s', c.lock? = some l → s.isEnabled l.constraint = .ok false →
        s'.isEnabled l.constraint = .ok true → c.SeesAlike s s' → c.Continues l s s') ∧
      ∀ ops s, (∀ op ∈ ops, Operation.moves op = false) →
        c.observe (Operation.runAll ops s) = c.observe s) ∧
    ((∀ c ∈ w.assembly.contacts, w.Holds c ∨ c.lock? = none) →
      ∀ ops s margin, (∀ op ∈ ops, Operation.moves op = false) →
        w.assembly.proximal (Operation.runAll ops s) margin = w.assembly.proximal s margin) := by
  intro w
  refine ⟨fun c hc => ⟨fun s s' hs hs' h => ?_, fun l s s' hl hs hs' h => ?_, fun ops s ho => ?_⟩,
    fun hcs ops s margin ho => ?_⟩
  · have hn := (Topology.slots_of_matchesState hs').trans (Topology.slots_of_matchesState hs).symm
    exact Contact.observe_of_seesAlike hc.coherent hn h
  · exact Contact.continues_of_seesAlike hc.coherent hl hs hs' h
  · exact Contact.observe_runAll hc.coherent ho s
  · refine Assembly.proximal_congr (fun c hc => Contact.observe_runAll ?_ ho s) margin
    rcases hcs c hc with hmade | hnone
    · exact hmade.coherent
    · cases c with
      | prescribed => trivial
      | stop | gliding | gripping => cases hnone

/-- An upper stop, disabled in one state and enabled in another one, where another body has
moved. -/
theorem observations_of_stop :
    let body : Mobilizer := ⟨⟨1⟩, 0, 1⟩
    let lock : CoordinateLock Float := ⟨⟨0⟩, 0, 3⟩
    let stop : Contact Float := .stop ⟨.upper, body, 0, 3, ⟨1, none⟩, lock, none⟩
    let steps : List (BuildStep Float) :=
      [.body 1, .body 1, .make (.stop .upper body 0 3 ⟨1, none⟩), .addContact stop]
    let w := Workshop.build steps
    let s : State Float := w.topology.allocate
    let s' : State Float :=
      { s with time := 2, q := s.q.set 1 5, slots := [⟨1, true, none⟩], multipliers := [7] }
    let more : List (Operation Float) := [.switch (.contact stop) false, .realize w.topology .model]
    w.Holds stop ∧ w.topology.matchesState s = true ∧ w.topology.matchesState s' = true ∧
      stop.SeesAlike s s' ∧ stop.observe s' = stop.observe s ∧
      s.isEnabled lock.constraint = .ok false ∧ s'.isEnabled lock.constraint = .ok true ∧
      stop.Continues (.coordinate lock) s s' ∧
      stop.observe (Operation.runAll more s') = stop.observe s' ∧
      w.assembly.proximal (Operation.runAll more s') 1 = w.assembly.proximal s' 1 := by
  intro body lock stop steps w s s' more
  have hmade : .contact stop ∈ w.made := List.mem_cons_self
  have hholds : w.Holds stop := ⟨stop, hmade, .inl rfl⟩
  have hs : w.topology.matchesState s = true := rfl
  have hs' : w.topology.matchesState s' = true := rfl
  have hoff : s.isEnabled lock.constraint = .ok false := rfl
  have hon : s'.isEnabled lock.constraint = .ok true := rfl
  have hsight : stop.SeesAlike s s' := ⟨rfl, rfl, rfl, rfl⟩
  have hmore : ∀ op ∈ more, op.moves = false := by simp [more, Operation.moves]
  have hcs : ∀ c ∈ w.assembly.contacts, w.Holds c ∨ c.lock? = none := by
    intro c hc
    have hcopy : c = Unilateral.withHandle stop ⟨0⟩ := List.mem_singleton.1 hc
    exact .inl ⟨stop, hmade, .inr ⟨_, hcopy⟩⟩
  obtain ⟨hcontact, hproximal⟩ := observations_of_sight steps
  obtain ⟨hsame, hlock, hrun⟩ := hcontact stop hholds
  exact ⟨hholds, hs, hs', hsight, hsame s s' hs hs' hsight, hoff, hon,
    hlock _ s s' rfl hoff hon hsight, hrun more s' hmore, hproximal hcs more s' 1 hmore⟩

end OneSided
