import OneSided.Proofs.Assembly.Workshop
import OneSided.Proofs.Contact.Touch
import OneSided.Proofs.Space.Rate

/-! Measures of a ball over bodies in motion, in exact arithmetic. Main statements: what is
called a rate of the separation or of the slip is one, however the two bodies move, and so
the errors that contacts and locks of a ball tell are rates of each other. -/

namespace OneSided

/-! ### Two turntables -/

/-- A ball on one turntable above a half space on another, which is tilted about the second
axis. -/
noncomputable def Ball.aboveTurntable : Ball ℝ :=
  ⟨⟨1⟩, ⟨⟨0, 5 / 13, 0, 12 / 13⟩, 1⟩, ⟨2⟩, ⟨1, 0, 1⟩, 1⟩

noncomputable def Workshop.turntables [Grain] : Workshop ℝ :=
  Workshop.build [.body 0, .body 0, .make (.stickingBall .aboveTurntable)]

/-- The state at a time, after the only lock has been switched. -/
noncomputable def Workshop.turntablesAt [Grain] (on : Bool) (t : ℝ) : State ℝ :=
  Operation.runAll
    [.modifyMotion ⟨1⟩ fun _ => .turntable 1 (-1) t, .modifyMotion ⟨2⟩ fun _ => .turntable (-1) 1 t,
      .switch (.lock (.sticking ⟨⟨0⟩, .aboveTurntable⟩)) on]
    turntables.topology.allocate

theorem Ball.carried_aboveTurntable [Grain] (on : Bool) (t : ℝ) :
    Ball.aboveTurntable.Carried (Workshop.turntablesAt on t) (.turntable 1 (-1) t)
      (.turntable (-1) 1 t) := by
  cases on <;> exact ⟨rfl, rfl⟩

/-! ### Normal direction -/

section Normal

variable [Grain]

namespace Ball

variable (g : Ball ℝ) {b f : ℝ → Motion ℝ}

/-- The centre from the origin of the base. -/
theorem hasRate_reach (hb : Rigid b) (hf : Rigid f) (t : ℝ) :
    Vec3.HasRate (fun τ => (f τ).locate g.centre - (b τ).origin)
      ((f t).velocityAt ((f t).locate g.centre) - (b t).velocity) t :=
  (hf.locate g.centre t).sub (hb.origin t)

theorem hasDerivAt_separation (hb : Rigid b) (hf : Rigid f) (t : ℝ) :
    HasDerivAt (fun τ => g.separation (b τ) (f τ)) (g.normalErrors (b t) (f t)).velocity t := by
  have h := (hb.turn g.plane.normal t).dot (g.hasRate_reach hb hf t)
  exact (h.sub_const _).sub_const _

theorem hasDerivAt_separationRate (hb : Rigid b) (hf : Rigid f) (t : ℝ) :
    HasDerivAt (fun τ => (g.normalErrors (b τ) (f τ)).velocity)
      (g.normalErrors (b t) (f t)).acceleration t := by
  have hn := hb.turn g.plane.normal t
  have hd := g.hasRate_reach hb hf t
  have hn' := hb.directionRate g.plane.normal t
  have hd' := (hf.velocityAt_locate g.centre t).sub (hb.velocity t)
  refine ((hn'.dot hd).add (hn.dot hd')).congr_deriv ?_
  -- the mixed term comes from either factor, hence twice
  simp only [normalErrors, Motion.directionRate]
  ring

end Ball

/-- Over rigid bodies in any motion the normal errors of a ball are its separation and the
first two derivatives of the separation in time. The contacts of the ball tell these
errors, enabled or not. -/
theorem separation_rates (g : Ball ℝ) {b f : ℝ → Motion ℝ} (hb : Rigid b) (hf : Rigid f) :
    (∀ t, (g.normalErrors (b t) (f t)).position = g.separation (b t) (f t)) ∧
    (∀ t, HasDerivAt (fun τ => g.separation (b τ) (f τ))
      (g.normalErrors (b t) (f t)).velocity t) ∧
    (∀ t, HasDerivAt (fun τ => (g.normalErrors (b τ) (f τ)).velocity)
      (g.normalErrors (b t) (f t)).acceleration t) ∧
    ∀ (c : Contact ℝ) (s : ℝ → State ℝ) (on : ℝ → Bool), c.lock?.bind Lock.ball? = some g →
      (∀ t, g.Carried (s t) (b t) (f t)) → (∀ t, Unilateral.isEnabled c (s t) = .ok (on t)) →
      ∃ p v a : ℝ → ℝ, ∀ t,
        Unilateral.positionError c (s t) = .ok (p t) ∧
        Unilateral.velocityError c (s t) = .ok (v t) ∧
        Unilateral.accelerationError c (s t) = .ok (a t) ∧
        HasDerivAt p (v t) t ∧ HasDerivAt v (a t) t := by
  have hv := g.hasDerivAt_separation hb hf
  have ha := g.hasDerivAt_separationRate hb hf
  refine ⟨fun t => rfl, hv, ha, fun c s on hc hs hon => ?_⟩
  refine ⟨fun t => g.separation (b t) (f t), fun t => (g.normalErrors (b t) (f t)).velocity,
    fun t => (g.normalErrors (b t) (f t)).acceleration, fun t => ?_⟩
  obtain ⟨hp, hv', ha'⟩ := Contact.errors_of_carried hc (hs t) (hon t)
  exact ⟨hp, hv', ha', hv t, ha t⟩

end Normal

/-- A sphere above a turntable, while its lock is off. -/
theorem separation_rates_of_turntables :
    let _ : Grain := ⟨2⁻¹ ^ 52⟩
    let touch : Contact ℝ :=
      .gripping ⟨.sphere, ⟨⟨0⟩, .aboveTurntable⟩, ⟨1, none⟩, ⟨0, 0, 0, none⟩, none⟩
    Rigid (.turntable 1 (-1)) ∧ Rigid (.turntable (-1) 1) ∧
      ∃ p v a : ℝ → ℝ, ∀ t,
        Unilateral.positionError touch (Workshop.turntablesAt false t) = .ok (p t) ∧
        Unilateral.velocityError touch (Workshop.turntablesAt false t) = .ok (v t) ∧
        Unilateral.accelerationError touch (Workshop.turntablesAt false t) = .ok (a t) ∧
        HasDerivAt p (v t) t ∧ HasDerivAt v (a t) t := by
  intro _ touch
  have hb := rigid_turntable 1 (-1)
  have hf := rigid_turntable (-1) 1
  obtain ⟨-, -, -, htouch⟩ := separation_rates .aboveTurntable hb hf
  refine ⟨hb, hf, htouch touch _ (fun _ => false) rfl (Ball.carried_aboveTurntable false) ?_⟩
  intro t
  rfl

/-! ### Tangential directions -/

section Tangential

variable [Grain]

/-- In exact arithmetic the axes of a half space are directions fixed in its body. -/
theorem HalfSpace.axesIn_of_unit {h : HalfSpace ℝ} {m : Motion ℝ} (hh : h.frame.normSq = 1)
    (hm : m.pose.rotation.normSq = 1) :
    h.axesIn m = (m.direct (h.frame.rotate .ex), m.direct (h.frame.rotate .ey),
      m.direct h.normal) := by
  simp only [axesIn, frameIn, Rotation.rotate_mul hm hh]
  rfl

namespace Ball

/-- The velocity of the follower against the base at the point of contact. -/
def slide {α : Type} [Scalar α] (g : Ball α) (b f : Motion α) : Vec3 α :=
  f.velocityAt (g.contactPoint b f) - b.velocityAt (g.contactPoint b f)

/-- The rate of the slide. The material points that touch are others at each instant. -/
def slideRate {α : Type} [Scalar α] (g : Ball α) (b f : Motion α) : Vec3 α :=
  let v := f.velocityAt (f.locate g.centre) -
    (b.directionRate (b.direct g.plane.normal)).scale g.radius
  f.velocityRateAlong (g.contactPoint b f) v - b.velocityRateAlong (g.contactPoint b f) v

theorem slipVelocity_of_unit {g : Ball ℝ} {b : Motion ℝ} (hg : g.plane.frame.normSq = 1)
    (hb : b.pose.rotation.normSq = 1) (f : Motion ℝ) :
    g.slipVelocity b f = ⟨(g.slide b f).dot (b.direct (g.plane.frame.rotate .ex)),
      (g.slide b f).dot (b.direct (g.plane.frame.rotate .ey))⟩ := by
  rw [slipVelocity, HalfSpace.axesIn_of_unit hg hb]
  rfl

theorem slipAcceleration_of_unit {g : Ball ℝ} {b : Motion ℝ} (hg : g.plane.frame.normSq = 1)
    (hb : b.pose.rotation.normSq = 1) (f : Motion ℝ) :
    let along (d : Vec3 ℝ) := (b.directionRate (b.direct d)).dot (g.slide b f) +
      (b.direct d).dot (g.slideRate b f)
    g.slipAcceleration b f =
      ⟨along (g.plane.frame.rotate .ex), along (g.plane.frame.rotate .ey)⟩ := by
  rw [slipAcceleration, HalfSpace.axesIn_of_unit hg hb]
  rfl

variable (g : Ball ℝ) {b f : ℝ → Motion ℝ}

/-- The point of contact moves over both bodies. -/
theorem hasRate_contactPoint (hb : RigidPath b) (hf : RigidPath f) (t : ℝ) :
    Vec3.HasRate (fun τ => g.contactPoint (b τ) (f τ))
      ((f t).velocityAt ((f t).locate g.centre) -
        ((b t).directionRate ((b t).direct g.plane.normal)).scale g.radius) t :=
  (hf.locate g.centre t).sub ((hb.turn g.plane.normal t).scale g.radius)

theorem hasRate_slide (hb : Rigid b) (hf : Rigid f) (t : ℝ) :
    Vec3.HasRate (fun τ => g.slide (b τ) (f τ)) (g.slideRate (b t) (f t)) t := by
  have hc := g.hasRate_contactPoint hb.path hf.path t
  exact (hf.velocityAt hc).sub (hb.velocityAt hc)

/-- The slide along an axis that turns with the base. -/
theorem hasDerivAt_slide (hb : Rigid b) (hf : Rigid f) (d : Vec3 ℝ) (t : ℝ) :
    HasDerivAt (fun τ => (g.slide (b τ) (f τ)).dot ((b τ).direct d))
      (((b t).directionRate ((b t).direct d)).dot (g.slide (b t) (f t)) +
        ((b t).direct d).dot (g.slideRate (b t) (f t))) t := by
  refine ((g.hasRate_slide hb hf t).dot (hb.turn d t)).congr_deriv ?_
  rw [Vec3.dot_comm, Vec3.dot_comm (g.slide _ _), add_comm]
  rfl

theorem hasDerivAt_slipVelocity (hg : g.plane.frame.normSq = 1) (hb : Rigid b) (hf : Rigid f)
    (t : ℝ) :
    HasDerivAt (fun τ => (g.slipVelocity (b τ) (f τ)).x) (g.slipAcceleration (b t) (f t)).x t ∧
    HasDerivAt (fun τ => (g.slipVelocity (b τ) (f τ)).y) (g.slipAcceleration (b t) (f t)).y t := by
  simp only [slipVelocity_of_unit hg (hb.unit _), slipAcceleration_of_unit hg (hb.unit t)]
  exact ⟨g.hasDerivAt_slide hb hf _ t, g.hasDerivAt_slide hb hf _ t⟩

end Ball

/-- Over rigid bodies in any motion the slip acceleration of a ball is the derivative of its
slip velocity in time. The slip velocity is that of the follower against the base at the
point of contact, along two axes fixed in the base. So the tangential errors of a lock that
keeps the ball from slipping are rates of each other. -/
theorem slip_rate (g : Ball ℝ) (hg : g.plane.frame.normSq = 1) {b f : ℝ → Motion ℝ}
    (hb : Rigid b) (hf : Rigid f) :
    (∀ t,
      let c := (f t).locate g.centre - ((b t).direct g.plane.normal).scale g.radius
      let w := (f t).velocityAt c - (b t).velocityAt c
      g.slipVelocity (b t) (f t) = ⟨w.dot ((b t).direct (g.plane.frame.rotate .ex)),
        w.dot ((b t).direct (g.plane.frame.rotate .ey))⟩) ∧
    (∀ t,
      HasDerivAt (fun τ => (g.slipVelocity (b τ) (f τ)).x)
        (g.slipAcceleration (b t) (f t)).x t ∧
      HasDerivAt (fun τ => (g.slipVelocity (b τ) (f τ)).y)
        (g.slipAcceleration (b t) (f t)).y t) ∧
    ∀ (l : StickingBall ℝ) (s : ℝ → State ℝ) (on : ℝ → Bool), l.ball = g →
      (∀ t, g.Carried (s t) (b t) (f t)) → (∀ t, (s t).isEnabled l.constraint = .ok (on t)) →
      ∃ v a : ℝ → Vec3 ℝ, ∀ t,
        l.velocityErrors (s t) = .ok (if on t then some (v t) else none) ∧
        l.accelerationErrors (s t) = .ok (if on t then some (a t) else none) ∧
        (⟨(v t).x, (v t).y⟩ : Vec2 ℝ) = g.slipVelocity (b t) (f t) ∧
        HasDerivAt (fun τ => (v τ).x) (a t).x t ∧ HasDerivAt (fun τ => (v τ).y) (a t).y t := by
  have hslip := g.hasDerivAt_slipVelocity hg hb hf
  refine ⟨fun t => Ball.slipVelocity_of_unit hg (hb.unit t) (f t), hslip,
    fun l s on hl hs hon => ?_⟩
  subst hl
  refine ⟨fun t => l.ball.stickingVelocity (b t) (f t),
    fun t => l.ball.stickingAcceleration (b t) (f t), fun t => ?_⟩
  obtain ⟨-, hv, ha⟩ := StickingBall.errors_of_carried (hs t) (hon t)
  exact ⟨hv, ha, rfl, hslip t⟩

end Tangential

/-- A sphere above a turntable, while its lock is on. -/
theorem slip_rate_of_turntables :
    let _ : Grain := ⟨2⁻¹ ^ 52⟩
    let lock : StickingBall ℝ := ⟨⟨0⟩, .aboveTurntable⟩
    lock.ball.plane.frame.normSq = 1 ∧ Rigid (.turntable 1 (-1)) ∧ Rigid (.turntable (-1) 1) ∧
      ∃ v a : ℝ → Vec3 ℝ, ∀ t,
        lock.velocityErrors (Workshop.turntablesAt true t) = .ok (some (v t)) ∧
        lock.accelerationErrors (Workshop.turntablesAt true t) = .ok (some (a t)) ∧
        HasDerivAt (fun τ => (v τ).x) (a t).x t ∧ HasDerivAt (fun τ => (v τ).y) (a t).y t := by
  intro _ lock
  have hg : lock.ball.plane.frame.normSq = 1 := by
    simp only [lock, Ball.aboveTurntable, Rotation.normSq]
    norm_num
  have hb := rigid_turntable 1 (-1)
  have hf := rigid_turntable (-1) 1
  obtain ⟨-, -, hlock⟩ := slip_rate lock.ball hg hb hf
  obtain ⟨v, a, h⟩ := hlock lock _ (fun _ => true) rfl (Ball.carried_aboveTurntable true)
    fun t => rfl
  refine ⟨hg, hb, hf, v, a, fun t => ?_⟩
  obtain ⟨hv, ha, -, hx, hy⟩ := h t
  exact ⟨hv, ha, hx, hy⟩

end OneSided
