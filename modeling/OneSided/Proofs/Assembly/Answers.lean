import OneSided.Proofs.Assembly.Bounds

/-! What elements answer. Main statement: bodies share the coordinate arrays without gap or
overlap, and whatever is asked of an element of an assembly, in any state that the assembly
has allocated since, no index is out of bounds. -/

namespace OneSided

variable {α : Type} [Scalar α]

/-! ### All that can be asked -/

/-- Everything that a sticking ball can be asked has an answer. -/
structure StickingBall.Answers (l : StickingBall α) (s : State α) : Prop where
  velocityErrors : Answered (l.velocityErrors s)
  accelerationErrors : Answered (l.accelerationErrors s)
  anchor : Answered (l.anchor s)
  setAnchor : ∀ p, Answered (l.setAnchor s p).answer
  contactCoordinates : Answered (l.contactCoordinates s)
  drift : Answered (l.drift s)

/-- Everything that a lock can be asked has an answer. -/
structure Lock.Answers (l : Lock α) (s : State α) : Prop where
  switch : ∀ on, Answered (l.switch s on).answer
  isEnabled : Answered (s.isEnabled l.constraint)
  multiplierHandle : ∀ which, Answered (l.multiplierHandle s which)
  positionError : Answered (l.positionError s)
  velocityError : Answered (l.velocityError s)
  accelerationError : Answered (l.accelerationError s)
  excess : ∀ k, l = .speed k → Answered (k.excess s)
  measure : ∀ g, l.ball? = some g → ∀ {β : Type} (m : Ball α → Motion α → Motion α → β),
    Answered (g.measure s m)
  sticking : ∀ k, l = .sticking k → k.Answers s

/-- What a contact tells of itself in a state. Its laws of restitution and friction may
refuse their arguments, but look at no index. -/
structure Contact.Readings (c : Contact α) (s : State α) : Prop where
  lock : ∀ l, c.lock? = some l → l.Answers s
  switch : ∀ on, Answered (Unilateral.switch c s on).answer
  isEnabled : Answered (Unilateral.isEnabled c s)
  location : Answered (Unilateral.location c s)
  positionError : Answered (Unilateral.positionError c s)
  velocityError : Answered (Unilateral.velocityError c s)
  accelerationError : Answered (Unilateral.accelerationError c s)
  slipVelocity : Answered (Unilateral.slipVelocity c s)
  contactCoordinates : Answered (Unilateral.contactCoordinates c s)
  multiplierHandle : Answered (Unilateral.multiplierHandle c s)
  frictionHandles : Answered (Unilateral.frictionHandles c s)
  restitution : ∀ range impact, InBounds (Unilateral.restitution c s range impact)
  friction : ∀ transition slip, InBounds (Unilateral.friction c s transition slip)

/-- Everything that a contact can be asked of a state has an answer: what it tells, and what
follows from it. -/
structure Contact.Answers (c : Contact α) (s : State α) : Prop extends Contact.Readings c s where
  multiplier : Answered (Unilateral.multiplier c s)
  isProximal : ∀ margin, Answered (Unilateral.isProximal c s margin)
  separationSpeed : Answered (Unilateral.separationSpeed c s)
  violation : ∀ tol, Answered (Unilateral.violation c s tol)
  satisfies : ∀ tol, Answered (Unilateral.satisfies c s tol)

/-- Everything that a friction element can be asked of a state has an answer, except for
what its law refuses, and for what a normal force does that is a function of the caller. -/
structure FrictionElement.Answers (f : FrictionElement α) (s : State α) : Prop where
  lock : ∀ l, (Element.friction f).lock? = some l → l.Answers s
  switch : ∀ on, Answered (LimitedFriction.switch f s on).answer
  isEnabled : Answered (LimitedFriction.isEnabled f s)
  slipSpeed : Answered (LimitedFriction.slipSpeed f s)
  slipVelocity : ∀ j, f = .joint j → Answered (j.slipVelocity s)
  multiplierHandle : Answered (LimitedFriction.multiplierHandle f s)
  force : Answered (LimitedFriction.force f s)
  coefficient : ∀ transition slip, InBounds (LimitedFriction.coefficient f s transition slip)
  normalForce : (∀ j g, f = .joint j → j.normal = .ofState g → InBounds (g s)) →
    InBounds (LimitedFriction.normalForce f s) ∧
    (∀ transition, InBounds (LimitedFriction.limit f s transition)) ∧
    ∀ transition tol, InBounds (LimitedFriction.holds f s transition tol)

/-- Everything that a drive can be asked of a state has an answer, except that bounds may
turn out to be inconsistent. -/
structure Drive.Answers (d : Drive α) (s : State α) : Prop where
  lock : ∀ l, (Element.drive d).lock? = some l → l.Answers s
  switch : ∀ on, Answered (BoundedDrive.switch d s on).answer
  isEnabled : Answered (BoundedDrive.isEnabled d s)
  speedError : Answered (BoundedDrive.speedError d s)
  multiplierHandle : Answered (BoundedDrive.multiplierHandle d s)
  bounds : Answered (BoundedDrive.bounds d s)
  availableTorque : ∀ m, d = .motor m → Answered (m.availableTorque s)
  reaction : Answered (BoundedDrive.reaction d s)
  satisfies : ∀ reaction tol, Answered (BoundedDrive.satisfies d s reaction tol)
  resolve : ∀ holding, InBounds (BoundedDrive.resolve d s holding)

def Element.Answers (e : Element α) (s : State α) : Prop :=
  match e with
  | contact c => c.Answers s
  | friction f => f.Answers s
  | drive d => d.Answers s
  | lock l => l.Answers s

/-! ### Laws -/

theorem Restitution.coefficient_inBounds (r : Restitution α) (range : ImpactRange α) (impact : α) :
    InBounds (r.coefficient range impact) := by
  unfold coefficient restitution
  dsimp only
  split_ifs <;> exact nofun

theorem DryFriction.coefficient_inBounds (f : DryFriction α) (transition slip : α) :
    InBounds (f.coefficient transition slip) := by
  unfold coefficient dryFriction
  split_ifs <;> exact nofun

variable {t : Topology} {s : State α}

/-! ### Locks -/

theorem StickingBall.answers {l : StickingBall α} (hs : t.Fits s)
    (h : (Lock.sticking l).Within t) : l.Answers s := by
  have hball : l.ball.Within t := h.2
  exact {
    velocityErrors := by
      rw [velocityErrors_eq]
      exact hs.whileEnabled h.1 (hball.measure hs _)
    accelerationErrors := by
      rw [accelerationErrors_eq]
      exact hs.whileEnabled h.1 (hball.measure hs _)
    anchor := hs.anchor h.1
    setAnchor := hs.setAnchor h.1
    contactCoordinates := hball.measure hs _
    drift := by
      refine (hs.isEnabled h.1).bind fun on => ?_
      cases on with
      | false => exact ⟨none, rfl⟩
      | true =>
        refine (hs.anchor h.1).bind fun a => ?_
        cases a with
        | none => exact ⟨none, rfl⟩
        | some a => exact (hball.measure hs Ball.contactCoordinates).bind fun c => ⟨_, rfl⟩ }

theorem SpeedLock.excess_answered {l : SpeedLock α} (hs : t.Fits s)
    (h : (Lock.speed l).Within t) : Answered (l.excess s) :=
  (hs.speed h.2).map _

theorem Lock.answers {l : Lock α} (hs : t.Fits s) (h : l.Within t) : l.Answers s where
  switch on := hs.switch h.1 on []
  isEnabled := hs.isEnabled h.1
  multiplierHandle := hs.multiplierHandle h.1
  positionError := by
    cases l with
    | coordinate l => exact hs.whileEnabled h.1 ((hs.coordinate h.2).map fun x => x - l.value)
    | speed l => exact ⟨none, rfl⟩
    | gliding l | sticking l => exact hs.whileEnabled h.1 (Ball.Within.measure h.2 hs _)
  velocityError := by
    cases l with
    | coordinate l => exact hs.whileEnabled h.1 (hs.speed h.2)
    | speed l => exact hs.whileEnabled h.1 (SpeedLock.excess_answered hs h)
    | gliding l => exact hs.whileEnabled h.1 (Ball.Within.measure h.2 hs _)
    | sticking l => exact (StickingBall.answers hs h).velocityErrors.map _
  accelerationError := by
    cases l with
    | coordinate l | speed l => exact hs.whileEnabled h.1 (hs.rate h.2)
    | gliding l => exact hs.whileEnabled h.1 (Ball.Within.measure h.2 hs _)
    | sticking l => exact (StickingBall.answers hs h).accelerationErrors.map _
  excess k hk := by
    cases hk
    exact SpeedLock.excess_answered hs h
  measure g hg := by
    cases l with
    | coordinate | speed => cases hg
    | gliding | sticking =>
      cases hg
      exact Ball.Within.measure h.2 hs
  sticking k hk := by
    cases hk
    exact StickingBall.answers hs h

/-! ### Contacts -/

namespace Contact

variable {c : Contact α}

theorem Readings.violation (h : c.Readings s) (tol : α) :
    Answered (Unilateral.violation c s tol) := by
  have hmultiplier : Answered (Unilateral.multiplier c s) := h.multiplierHandle.map _
  refine h.positionError.bind fun p => ?_
  dsimp only
  split_ifs
  · exact ⟨_, rfl⟩
  · exact ⟨_, rfl⟩
  · refine h.velocityError.bind fun v => ?_
    split_ifs
    · exact ⟨_, rfl⟩
    · exact ⟨_, rfl⟩
    · refine h.accelerationError.bind fun a => hmultiplier.bind fun x => ?_
      split_ifs <;> exact ⟨_, rfl⟩

/-- What follows from the readings of a contact has an answer whenever they have one. -/
theorem Readings.answers (h : c.Readings s) : c.Answers s where
  toReadings := h
  multiplier := h.multiplierHandle.map _
  isProximal _ := h.positionError.map _
  separationSpeed := h.velocityError.map _
  violation := h.violation
  satisfies tol := (h.violation tol).map _

theorem readings (hs : t.Fits s) (h : (Element.contact c).Within t) : c.Readings s := by
  have hlock : ∀ l, c.lock? = some l → l.Answers s := fun l hl => Lock.answers hs (h.lock l hl)
  cases c with
  | stop c =>
    have hw : (Lock.coordinate c.lock).Within t := h.lock _ rfl
    obtain ⟨hc, hbody⟩ := h.stop c rfl
    obtain ⟨hq, hu, hr⟩ := hc.entries s
    exact {
      lock := hlock
      switch on := hs.switch hw.1 on _
      isEnabled := hs.isEnabled hw.1
      location := (hs.motion hbody.handle).map _
      positionError :=
        hs.told hw.1 (hc.positionError s) (by rw [hq]; exact (hs.coordinate hw.2).map _)
      velocityError := hs.told hw.1 (hc.velocityError s) (by rw [hu]; exact hs.speed hw.2)
      accelerationError := hs.told hw.1 (hc.accelerationError s) (by rw [hr]; exact hs.rate hw.2)
      slipVelocity := ⟨none, rfl⟩
      contactCoordinates := ⟨none, rfl⟩
      multiplierHandle := hs.multiplierHandle hw.1 0
      frictionHandles := ⟨none, rfl⟩
      restitution := c.restitution.coefficient_inBounds
      friction _ _ := nofun }
  | gliding c =>
    have hw : (Lock.gliding c.lock).Within t := h.lock _ rfl
    have hball : c.lock.ball.Within t := hw.2
    exact {
      lock := hlock
      switch on := hs.switch hw.1 on _
      isEnabled := hs.isEnabled hw.1
      location := hball.measure hs _
      positionError := hs.told hw.1 (c.positionError_eq s) (hball.measure hs _)
      velocityError := hs.told hw.1 (c.velocityError_eq s) (hball.measure hs _)
      accelerationError := hs.told hw.1 (c.accelerationError_eq s) (hball.measure hs _)
      slipVelocity := ⟨none, rfl⟩
      contactCoordinates := ⟨none, rfl⟩
      multiplierHandle := hs.multiplierHandle hw.1 0
      frictionHandles := ⟨none, rfl⟩
      restitution := c.restitution.coefficient_inBounds
      friction _ _ := nofun }
  | gripping c =>
    have hw : (Lock.sticking c.lock).Within t := h.lock _ rfl
    have hball : c.lock.ball.Within t := hw.2
    have hslip : Answered (c.slipVelocity s) :=
      hs.told hw.1 (c.slipVelocity_eq s) (hball.measure hs _)
    have hlocation : Answered (c.location s) := by
      unfold GrippingTouch.location
      split <;> exact hball.measure hs _
    have hhandle (d : Direction) : Answered (c.multiplierHandle s d) := hs.multiplierHandle hw.1 _
    have hhandles : Answered (c.frictionHandles s) := by
      refine (hhandle .tangentX).bind fun x => (hhandle .tangentY).bind fun y => ?_
      split <;> exact ⟨_, rfl⟩
    exact {
      lock := hlock
      switch on := hs.switch hw.1 on _
      isEnabled := hs.isEnabled hw.1
      location := hlocation
      positionError := hs.told hw.1 (c.positionError_eq s) (hball.measure hs _)
      velocityError := hs.told hw.1 (c.velocityError_eq s) (hball.measure hs _)
      accelerationError := hs.told hw.1 (c.accelerationError_eq s) (hball.measure hs _)
      slipVelocity := hslip.map some
      contactCoordinates := (hball.measure hs Ball.contactCoordinates).map some
      multiplierHandle := hhandle .normal
      frictionHandles := hhandles
      restitution := c.restitution.coefficient_inBounds
      friction transition slip :=
        (c.friction.coefficient_inBounds transition slip).bind fun _ => nofun }
  | prescribed c =>
    exact {
      lock := nofun
      switch _ := ⟨false, rfl⟩
      isEnabled := ⟨_, rfl⟩
      location := ⟨0, rfl⟩
      positionError := ⟨_, rfl⟩
      velocityError := ⟨_, rfl⟩
      accelerationError := ⟨_, rfl⟩
      slipVelocity := ⟨none, rfl⟩
      contactCoordinates := ⟨none, rfl⟩
      multiplierHandle := ⟨_, rfl⟩
      frictionHandles := ⟨none, rfl⟩
      restitution := c.restitution.coefficient_inBounds
      friction _ _ := nofun }

end Contact

/-! ### Friction elements -/

theorem NormalForce.magnitude_inBounds {n : NormalForce α}
    (h : ∀ g, n = .ofState g → InBounds (g s)) : InBounds (n.magnitude s) := by
  cases n with
  | constant => exact nofun
  | ofState g => exact (h g rfl).bind fun _ => nofun

namespace FrictionElement

variable {f : FrictionElement α}

/-- The limit and what it decides look at no index besides those of the normal force. -/
theorem limit_inBounds (hslip : Answered (LimitedFriction.slipSpeed f s))
    (hforce : Answered (LimitedFriction.force f s))
    (hcoefficient : ∀ transition slip, InBounds (LimitedFriction.coefficient f s transition slip))
    (hnormal : InBounds (LimitedFriction.normalForce f s)) :
    (∀ transition, InBounds (LimitedFriction.limit f s transition)) ∧
    ∀ transition tol, InBounds (LimitedFriction.holds f s transition tol) := by
  have hlimit : ∀ transition, InBounds (LimitedFriction.limit f s transition) := fun transition =>
    hslip.inBounds.bind fun slip => (hcoefficient transition slip).bind fun _ =>
      hnormal.bind fun _ => nofun
  refine ⟨hlimit, fun transition tol => hforce.inBounds.bind fun x => ?_⟩
  cases x with
  | none => exact nofun
  | some x => exact (hlimit transition).bind fun _ => nofun

theorem answers (hs : t.Fits s) (h : (Element.friction f).Within t) : f.Answers s := by
  have hlock : ∀ l, (Element.friction f).lock? = some l → l.Answers s := fun l hl =>
    Lock.answers hs (h.lock l hl)
  have hcoefficient : ∀ transition slip,
      InBounds (LimitedFriction.coefficient f s transition slip) := by
    cases f with
    | joint f | prescribed f => exact f.friction.coefficient_inBounds
  cases f with
  | joint j =>
    have hw : (Lock.speed j.lock).Within t := h.lock _ rfl
    have hexcess : Answered (j.slipVelocity s) := SpeedLock.excess_answered hs hw
    have hslip : Answered (LimitedFriction.slipSpeed (FrictionElement.joint j) s) := hexcess.map _
    have hhandle : Answered (LimitedFriction.multiplierHandle (FrictionElement.joint j) s) :=
      hs.multiplierHandle hw.1 0
    have hforce : Answered (LimitedFriction.force (FrictionElement.joint j) s) := hhandle.map _
    exact {
      lock := hlock
      switch on := hs.switch hw.1 on _
      isEnabled := hs.isEnabled hw.1
      slipSpeed := hslip
      slipVelocity := by
        rintro k ⟨⟩
        exact hexcess
      multiplierHandle := hhandle
      force := hforce
      coefficient := hcoefficient
      normalForce := by
        intro hn
        have hnormal : InBounds (LimitedFriction.normalForce (FrictionElement.joint j) s) :=
          NormalForce.magnitude_inBounds fun g hg => hn j g rfl hg
        exact ⟨hnormal, limit_inBounds hslip hforce hcoefficient hnormal⟩ }
  | prescribed f =>
    exact {
      lock := nofun
      switch _ := ⟨false, rfl⟩
      isEnabled := ⟨_, rfl⟩
      slipSpeed := ⟨_, rfl⟩
      slipVelocity := nofun
      multiplierHandle := ⟨_, rfl⟩
      force := ⟨_, rfl⟩
      coefficient := hcoefficient
      normalForce _ := ⟨nofun, limit_inBounds ⟨_, rfl⟩ ⟨_, rfl⟩ hcoefficient nofun⟩ }

end FrictionElement

/-! ### Drives -/

omit [Scalar α] in
/-- A body inside the topology has a speed for each of its coordinates. -/
theorem Mobilizer.speed_answered {m : Mobilizer} {which : Nat} (hs : t.Fits s) (hm : m.Within t)
    (hwhich : which < m.count) : Answered (m.speed s which) := by
  have hplace : (m.place which : Except (Rejection α) Nat) = .ok (m.first + which) :=
    place_eq_ok.2 ⟨hwhich, rfl⟩
  rw [(entries_of_place hplace s).2.1]
  exact hs.speed (hm.place_lt hplace)

/-- A body of an assembly has its speeds in every state that the assembly has allocated. -/
theorem Mobilizer.speed_answered_of_mem {steps : List (BuildStep α)} {m : Mobilizer} {which : Nat}
    (hm : m ∈ (Workshop.build steps).topology.bodies) (hwhich : which < m.count)
    (ops : List (Operation α)) :
    Answered (m.speed (Operation.runAll ops (Workshop.build steps).topology.allocate) which) :=
  speed_answered ((Topology.Fits.allocate _).runAll ops) ((Workshop.build_laid steps).within hm)
    hwhich

theorem Motor.availableTorque_answered {m : Motor α} (hs : t.Fits s)
    (h : m.which < m.body.count ∧ m.body.Within t) : Answered (m.availableTorque s) := by
  have hspeed : Answered (m.body.speed s m.which) := Mobilizer.speed_answered hs h.2 h.1
  unfold availableTorque
  split
  · exact hspeed.map _
  · exact ⟨_, rfl⟩

namespace Drive

variable {d : Drive α}

theorem satisfies_answered (hb : Answered (BoundedDrive.bounds d s))
    (he : Answered (BoundedDrive.speedError d s)) (reaction tol : α) :
    Answered (BoundedDrive.satisfies d s reaction tol) := by
  refine hb.bind fun (lower, upper) => he.bind fun e => ?_
  split_ifs <;> exact ⟨_, rfl⟩

theorem resolve_inBounds (hb : Answered (BoundedDrive.bounds d s)) (holding : α) :
    InBounds (BoundedDrive.resolve d s holding) := by
  refine hb.inBounds.bind fun (lower, upper) => ?_
  dsimp only
  split_ifs <;> exact nofun

theorem answers (hs : t.Fits s) (h : (Element.drive d).Within t) : d.Answers s := by
  have hlock : ∀ l, (Element.drive d).lock? = some l → l.Answers s := fun l hl =>
    Lock.answers hs (h.lock l hl)
  cases d with
  | motor m =>
    have hw : (Lock.speed m.lock).Within t := h.lock _ rfl
    have htorque : Answered (m.availableTorque s) := m.availableTorque_answered hs (h.motor m rfl)
    have hbounds : Answered (BoundedDrive.bounds (Drive.motor m) s) := htorque.map _
    have hexcess : Answered (BoundedDrive.speedError (Drive.motor m) s) :=
      SpeedLock.excess_answered hs hw
    have hhandle : Answered (BoundedDrive.multiplierHandle (Drive.motor m) s) :=
      hs.multiplierHandle hw.1 0
    exact {
      lock := hlock
      switch on := hs.switch hw.1 on _
      isEnabled := hs.isEnabled hw.1
      speedError := hexcess
      multiplierHandle := hhandle
      bounds := hbounds
      availableTorque := by
        rintro k ⟨⟩
        exact htorque
      reaction := hhandle.map _
      satisfies := satisfies_answered hbounds hexcess
      resolve := resolve_inBounds hbounds }
  | prescribed d =>
    have hbounds : Answered (BoundedDrive.bounds (Drive.prescribed d) s) := ⟨_, rfl⟩
    exact {
      lock := nofun
      switch _ := ⟨false, rfl⟩
      isEnabled := ⟨_, rfl⟩
      speedError := ⟨_, rfl⟩
      multiplierHandle := ⟨_, rfl⟩
      bounds := hbounds
      availableTorque := nofun
      reaction := ⟨_, rfl⟩
      satisfies := satisfies_answered hbounds ⟨_, rfl⟩
      resolve := resolve_inBounds hbounds }

end Drive

/-- An element inside a topology answers in every state that fits it. -/
theorem Element.answers {e : Element α} (hs : t.Fits s) (h : e.Within t) : e.Answers s := by
  cases e with
  | contact c => exact (Contact.readings hs h).answers
  | friction f => exact FrictionElement.answers hs h
  | drive d => exact Drive.answers hs h
  | lock l => exact Lock.answers hs (h.lock l rfl)

/-- However an assembly comes about, the shares of its bodies, which are the ground and the
bodies added, follow one another from the first coordinate to the last one. So the places of
coordinates exist exactly as far as a body counts them, and no two agree. Elements that are
made of bodies of the assembly answer in every state that the assembly allocates later,
whatever is done to that state and whatever has been added before. -/
theorem indices_in_bounds :
    (∀ steps : List (BuildStep α),
      let t := (Workshop.build steps).topology
      t.bodies.map (·.count) = 0 :: steps.filterMap BuildStep.count? ∧
      Tiles 0 (t.bodies.map Mobilizer.share) t.coordinates ∧
      ∀ (i : Nat) (m : Mobilizer) (which : Nat), t.bodies[i]? = some m →
        ((∃ k, (m.place which : Except (Rejection α) Nat) = .ok k) ↔ which < m.count) ∧
        ∀ k, (m.place which : Except (Rejection α) Nat) = .ok k → k < t.coordinates ∧
          ∀ (j : Nat) (m' : Mobilizer) (which' : Nat), t.bodies[j]? = some m' →
            (m'.place which' : Except (Rejection α) Nat) = .ok k → i = j ∧ which = which') ∧
    ∀ (pre post : List (BuildStep α)) (p : Part α) (e : Element α) (t : Topology),
      p.make (Workshop.build pre).topology = .ok (e, t) →
      p.Local (Workshop.build pre).topology →
      ∀ e', e.Stems e' → ∀ ops : List (Operation α),
        e'.Answers (Operation.runAll ops
          (Workshop.build (pre ++ .make p :: post)).topology.allocate) := by
  refine ⟨fun steps => ?_, fun pre post p e t he hlocal e' hstems ops => ?_⟩
  · have ht := Workshop.build_laid steps
    refine ⟨Workshop.counts_build steps, ht.shares, fun i m which hm =>
      ⟨Mobilizer.place_isOk, fun k hk => ⟨(ht.within (List.mem_of_getElem? hm)).place_lt hk, ?_⟩⟩⟩
    exact fun j m' which' hm' hk' => ht.place_injective hm hm' hk hk'
  · have hw : e.Within t := Part.within_of_make (Workshop.build_laid pre) hlocal he
    have hgrows : t.GrowsTo (Workshop.build (pre ++ .make p :: post)).topology := by
      have hstep : ((Workshop.build pre).step (.make p)).topology = t := by
        simp only [Workshop.step, he]
        rfl
      rw [Workshop.build_append, ← hstep]
      exact Workshop.growsTo_after _ post
    exact Element.answers ((Topology.Fits.allocate _).runAll ops)
      ((hw.mono hgrows).of_stems hstems)

/-- A motor on the second of two bodies is given a no-load speed, while more is added to the
assembly; then its coordinate is set in motion and a rate is written that does not exist. -/
theorem indices_in_bounds_of_motor :
    let body : Mobilizer := ⟨⟨2⟩, 2, 1⟩
    let motor : Part Float := .motor body 0 1 2
    let made : Motor Float := ⟨body, 0, 2, none, ⟨⟨0⟩, 2, 1⟩, none⟩
    let pre : List (BuildStep Float) := [.body 2, .body 1]
    let post : List (BuildStep Float) := [.body 3, .make (.stop .upper body 0 1 ⟨1, none⟩)]
    let later := (Workshop.build (pre ++ .make motor :: post)).topology
    let s : State Float := Operation.runAll
      [.setSpeed 2 5, .switch (.drive (.motor made)) true, .setRate 6 0] later.allocate
    later.bodies[2]? = some body ∧ later.bodies.map (·.count) = [0, 2, 1, 3] ∧
      (body.place 0 : Except (Rejection Float) Nat) = .ok 2 ∧ 2 < later.coordinates ∧
      (∃ t, motor.make (Workshop.build pre).topology = .ok (.drive (.motor made), t)) ∧
      motor.Local (Workshop.build pre).topology ∧
      (Element.drive (.motor made)).Stems (.drive (.motor { made with noLoad := some 4 })) ∧
      (Drive.motor { made with noLoad := some 4 }).Answers s := by
  intro body motor made pre post later s
  obtain ⟨hshares, hanswers⟩ := indices_in_bounds (α := Float)
  obtain ⟨hcounts, -, hplaces⟩ := hshares (pre ++ .make motor :: post)
  have hbody : later.bodies[2]? = some body := rfl
  have hplace : (body.place 0 : Except (Rejection Float) Nat) = .ok 2 := rfl
  have hmake : motor.make (Workshop.build pre).topology =
      .ok (.drive (.motor made), ((Workshop.build pre).topology.addConstraint 1).2) := rfl
  have hlocal : motor.Local (Workshop.build pre).topology :=
    List.mem_cons_of_mem _ (List.mem_cons_of_mem _ List.mem_cons_self)
  have hnoLoad : made.withNoLoad 4 = .ok { made with noLoad := some 4 } := rfl
  have hstems : (Element.drive (.motor made)).Stems
      (.drive (.motor { made with noLoad := some 4 })) := .noLoad .self hnoLoad
  exact ⟨hbody, hcounts, hplace, ((hplaces 2 body 0 hbody).2 2 hplace).1, ⟨_, hmake⟩, hlocal,
    hstems, hanswers pre post motor _ _ hmake hlocal _ hstems _⟩

end OneSided
