import OneSided.Proofs.Plane.Components

/-! The drift of a ball that once took hold of a plane, in exact arithmetic. The point of
contact is fixed in neither body: over the base it moves with the slip, and with what the
spin of the bodies against each other carries it along. Main statement: this is the rate of
the point of contact in plane coordinates, so that the drift of a point is the integral of
its slip, and the drift of a sphere misses that by its rolling alone. -/

namespace OneSided

variable [Grain]

namespace Ball

/-! ### The point of contact over the base -/

/-- What carries the point of contact over the base besides the slip. -/
def rolling {α : Type} [Scalar α] (g : Ball α) (b f : Motion α) : Vec3 α :=
  ((f.spin - b.spin).cross (b.direct g.plane.normal)).scale g.radius

theorem rolling_dot_normal (g : Ball ℝ) (b f : Motion ℝ) :
    (g.rolling b f).dot (b.direct g.plane.normal) = 0 := by
  simp only [rolling, Vec3.dot, Vec3.scale_x, Vec3.scale_y, Vec3.scale_z, Vec3.cross_x,
    Vec3.cross_y, Vec3.cross_z]
  ring

theorem rolling_of_point {g : Ball ℝ} (hr : g.radius = 0) (b f : Motion ℝ) :
    g.rolling b f = 0 := by
  ext <;> simp [rolling, hr]

variable (g : Ball ℝ) {b f : ℝ → Motion ℝ}

/-- The way from the origin of the base to the point of contact, along a direction fixed in the
base. The turn of the direction takes away what the base itself moves. -/
theorem hasDerivAt_reach (hb : RigidPath b) (hf : RigidPath f) (d : Vec3 ℝ) (t : ℝ) :
    HasDerivAt
      (fun τ => ((b τ).direct d).dot (g.contactPoint (b τ) (f τ) - (b τ).origin))
      ((g.slide (b t) (f t)).dot ((b t).direct d) +
        (g.rolling (b t) (f t)).dot ((b t).direct d)) t := by
  -- both factors of the product move: the reach, and the direction with the base
  have hreach := (g.hasRate_contactPoint hb hf t).sub (hb.origin t)
  refine ((hb.turn d t).dot hreach).congr_deriv ?_
  simp only [slide, rolling, contactPoint, Motion.velocityAt, Motion.directionRate, Vec3.dot,
    Vec3.add_x, Vec3.add_y, Vec3.add_z, Vec3.sub_x, Vec3.sub_y, Vec3.sub_z, Vec3.cross_x,
    Vec3.cross_y, Vec3.cross_z, Vec3.scale_x, Vec3.scale_y, Vec3.scale_z]
  ring

variable {g}

theorem contactCoordinates_of_unit (hg : g.plane.frame.normSq = 1) {b : Motion ℝ}
    (hb : b.pose.rotation.normSq = 1) (f : Motion ℝ) :
    let reach := g.contactPoint b f - b.origin
    g.contactCoordinates b f = ⟨(b.direct (g.plane.frame.rotate .ex)).dot reach,
      (b.direct (g.plane.frame.rotate .ey)).dot reach,
      (b.direct g.plane.normal).dot reach - g.plane.height⟩ := by
  rw [contactCoordinates, planeCoordinates, Rotation.unrotate_eq_axes]
  simp only [HalfSpace.frameIn, Rotation.rotate_mul hb hg]
  rfl

/-- The components of the rolling along the tangent axes. -/
def rollVelocity {α : Type} [Scalar α] (g : Ball α) (b f : Motion α) : Vec2 α :=
  let (x, y, _) := g.plane.axesIn b
  ⟨(g.rolling b f).dot x, (g.rolling b f).dot y⟩

theorem rollVelocity_of_point (hr : g.radius = 0) (b f : Motion ℝ) :
    g.rollVelocity b f = ⟨0, 0⟩ := by
  simp only [rollVelocity, rolling_of_point hr, Vec3.zero_dot]

/-- The rate of the point of contact in plane coordinates. -/
def contactRate {α : Type} [Scalar α] (g : Ball α) (b f : Motion α) : Vec3 α :=
  let slip := g.slipVelocity b f
  let roll := g.rollVelocity b f
  ⟨slip.x + roll.x, slip.y + roll.y, g.separationRate b f⟩

theorem hasRate_contactCoordinates (hg : g.plane.frame.normSq = 1) (hb : RigidPath b)
    (hf : RigidPath f) (t : ℝ) :
    Vec3.HasRate (fun τ => g.contactCoordinates (b τ) (f τ)) (g.contactRate (b t) (f t)) t := by
  simp only [contactCoordinates_of_unit hg (hb.unit _), contactRate, rollVelocity,
    HalfSpace.axesIn_of_unit hg (hb.unit t), slipVelocity_of_unit hg (hb.unit t)]
  refine ⟨g.hasDerivAt_reach hb hf _ t, g.hasDerivAt_reach hb hf _ t, ?_⟩
  refine ((g.hasDerivAt_reach hb hf g.plane.normal t).sub_const _).congr_deriv ?_
  rw [rolling_dot_normal, add_zero, separationRate_eq_slide, Vec3.dot_comm]

end Ball

/-! ### The drift from an anchor -/

theorem StickingBall.drift_of_carried {l : StickingBall ℝ} {s : State ℝ} {b f : Motion ℝ}
    {a : Vec3 ℝ} (hs : l.ball.Carried s b f) (hon : s.isEnabled l.constraint = .ok true)
    (ha : l.anchor s = .ok (some a)) :
    l.drift s = .ok (some ⟨(l.ball.contactCoordinates b f).x - a.x,
      (l.ball.contactCoordinates b f).y - a.y⟩) := by
  rw [drift, hon, ha, contactCoordinates, hs.measure]
  rfl

/-- The point of contact of a ball in plane coordinates, over rigid bodies in any motion. Its
rate is the slip, and along the normal the rate of the separation, together with a tangential
velocity that the spin of the follower against the base gives a sphere. So a touch that
tells its drift from an anchor tells the slip as the rate of the drift, up to the rolling
of a sphere. The drift of a point is the integral of its slip, and a point that does not
slip does not drift. -/
theorem drift_rate (g : Ball ℝ) (hg : g.plane.frame.normSq = 1) {b f : ℝ → Motion ℝ}
    (hb : RigidPath b) (hf : RigidPath f) :
    (∀ t,
      let (x, y, n) := g.plane.axesIn (b t)
      let w := (((f t).spin - (b t).spin).cross n).scale g.radius
      let slip := g.slipVelocity (b t) (f t)
      w.dot n = 0 ∧ g.rollVelocity (b t) (f t) = ⟨w.dot x, w.dot y⟩ ∧
      Vec3.HasRate (fun τ => g.contactCoordinates (b τ) (f τ))
        ⟨slip.x + w.dot x, slip.y + w.dot y, (g.normalErrors (b t) (f t)).velocity⟩ t) ∧
    ∀ (c : GrippingTouch ℝ) (s : ℝ → State ℝ) (on : ℝ → Bool), c.lock.ball = g →
      (∀ t, g.Carried (s t) (b t) (f t)) → (∀ t, (s t).isEnabled c.lock.constraint = .ok (on t)) →
      ∃ (p : ℝ → Vec3 ℝ) (v : ℝ → Vec2 ℝ) (e : ℝ → ℝ),
        (∀ t,
          let roll := g.rollVelocity (b t) (f t)
          Unilateral.contactCoordinates (Contact.gripping c) (s t) = .ok (some (p t)) ∧
          Unilateral.slipVelocity (Contact.gripping c) (s t) = .ok (some (v t)) ∧
          Unilateral.velocityError (Contact.gripping c) (s t) = .ok (e t) ∧
          Vec3.HasRate p ⟨(v t).x + roll.x, (v t).y + roll.y, e t⟩ t) ∧
        ∀ a : Vec3 ℝ,
          let d (t : ℝ) : Vec2 ℝ := ⟨(p t).x - a.x, (p t).y - a.y⟩
          (∀ t, on t = true → c.lock.anchor (s t) = .ok (some a) →
            c.lock.drift (s t) = .ok (some (d t))) ∧
          (∀ t,
            let roll := g.rollVelocity (b t) (f t)
            Vec2.HasRate d ⟨(v t).x + roll.x, (v t).y + roll.y⟩ t) ∧
          (g.radius = 0 →
            (∀ t, Vec2.HasRate d (v t) t) ∧
            (∀ t₀ t₁,
              IntervalIntegrable (fun t => (v t).x) MeasureTheory.volume t₀ t₁ →
              IntervalIntegrable (fun t => (v t).y) MeasureTheory.volume t₀ t₁ →
                ∫ t in t₀..t₁, (v t).x = (d t₁).x - (d t₀).x ∧
                ∫ t in t₀..t₁, (v t).y = (d t₁).y - (d t₀).y) ∧
            ∀ t₀ t₁, t₀ ≤ t₁ → (∀ t ∈ Set.Icc t₀ t₁, v t = ⟨0, 0⟩) → d t₁ = d t₀) := by
  have hrate := Ball.hasRate_contactCoordinates hg hb hf
  refine ⟨fun t => ?_, fun c s on hc hs hon => ?_⟩
  · have hn : (g.plane.frameIn (b t)).rotate .ez = (b t).direct g.plane.normal :=
      HalfSpace.frameIn_rotate_ez hg (hb.unit t)
    simp only [HalfSpace.axesIn, hn]
    exact ⟨g.rolling_dot_normal _ _, rfl, hrate t⟩
  · subst hc
    refine ⟨fun t => c.lock.ball.contactCoordinates (b t) (f t),
      fun t => c.lock.ball.slipVelocity (b t) (f t),
      fun t => c.lock.ball.separationRate (b t) (f t), fun t => ?_, fun a => ?_⟩
    · obtain ⟨-, hv, -⟩ := GrippingTouch.errors_of_carried (hs t) (hon t)
      exact ⟨GrippingTouch.contactCoordinates_of_carried (hs t),
        Contact.slipVelocity_of_carried rfl (hs t) (hon t), hv, hrate t⟩
    · intro d
      have hd (t : ℝ) : Vec2.HasRate d ⟨(c.lock.ball.contactRate (b t) (f t)).x,
          (c.lock.ball.contactRate (b t) (f t)).y⟩ t :=
        ⟨(hrate t).x.sub_const a.x, (hrate t).y.sub_const a.y⟩
      refine ⟨fun t ht ha => StickingBall.drift_of_carried (hs t) (ht ▸ hon t) ha, hd, fun hr => ?_⟩
      have hslip (t : ℝ) : Vec2.HasRate d (c.lock.ball.slipVelocity (b t) (f t)) t := by
        simpa only [Ball.contactRate, Ball.rollVelocity_of_point hr, add_zero] using hd t
      refine ⟨hslip, fun t₀ t₁ hx hy => ⟨?_, ?_⟩, fun t₀ t₁ ht hv => ?_⟩
      · exact intervalIntegral.integral_eq_sub_of_hasDerivAt (fun t _ => (hslip t).x) hx
      · exact intervalIntegral.integral_eq_sub_of_hasDerivAt (fun t _ => (hslip t).y) hy
      · exact Vec2.eq_of_hasRate_zero hslip ht hv

omit [Grain] in
/-- A sphere on one turntable above another, and a point that rides along with the turntable
below it. Anchored where it is at the start, the point never drifts. -/
theorem drift_rate_of_turntables :
    let _ : Grain := ⟨2⁻¹ ^ 52⟩
    let sphere : Ball ℝ := .aboveTurntable
    let point : Ball ℝ := { sphere with radius := 0 }
    let touch : GrippingTouch ℝ := ⟨.sphere, ⟨⟨0⟩, sphere⟩, ⟨1, none⟩, ⟨0, 0, 0, none⟩, none⟩
    let rider : GrippingTouch ℝ := ⟨.point, ⟨⟨0⟩, point⟩, ⟨1, none⟩, ⟨0, 0, 0, none⟩, none⟩
    let b := Motion.turntable 1 (-1)
    let f := Motion.turntable (-1) 1
    let riding (t : ℝ) : State ℝ := Operation.runAll
      [.modifyMotion ⟨1⟩ fun _ => b t, .modifyMotion ⟨2⟩ fun _ => b t,
        .switch (.contact (.gripping rider)) true,
        .setAnchor rider.lock (some (point.contactCoordinates (b 0) (b 0)))]
      Workshop.turntables.topology.allocate
    sphere.plane.frame.normSq = 1 ∧ RigidPath b ∧ RigidPath f ∧
      (∃ (p : ℝ → Vec3 ℝ) (v : ℝ → Vec2 ℝ) (e : ℝ → ℝ), ∀ t,
        let s := Workshop.turntablesAt false t
        let roll := sphere.rollVelocity (b t) (f t)
        Unilateral.contactCoordinates (Contact.gripping touch) s = .ok (some (p t)) ∧
        Unilateral.slipVelocity (Contact.gripping touch) s = .ok (some (v t)) ∧
        Unilateral.velocityError (Contact.gripping touch) s = .ok (e t) ∧
        Vec3.HasRate p ⟨(v t).x + roll.x, (v t).y + roll.y, e t⟩ t) ∧
      ∀ t, 0 ≤ t → rider.lock.drift (riding t) = .ok (some ⟨0, 0⟩) := by
  intro _ sphere point touch rider b f riding
  have hg : sphere.plane.frame.normSq = 1 := Ball.unit_aboveTurntable
  have hb : RigidPath b := (rigid_turntable 1 (-1)).path
  have hf : RigidPath f := (rigid_turntable (-1) 1).path
  refine ⟨hg, hb, hf, ?_, fun t ht => ?_⟩
  · obtain ⟨-, htouch⟩ := drift_rate sphere hg hb hf
    obtain ⟨p, v, e, htold, -⟩ := htouch touch (Workshop.turntablesAt false) (fun _ => false) rfl
      (Ball.carried_aboveTurntable false) fun _ => rfl
    exact ⟨p, v, e, htold⟩
  · obtain ⟨-, hrider⟩ := drift_rate point hg hb hb
    let start : Vec3 ℝ := point.contactCoordinates (b 0) (b 0)
    have hmotions (t : ℝ) : (riding t).motions = [.atRest .id, b t, b t] := by rfl
    have hslots (t : ℝ) : (riding t).slots = [⟨3, true, some start⟩] := by rfl
    have hcarried (t : ℝ) : point.Carried (riding t) (b t) (b t) := by
      constructor <;> rw [State.motion, hmotions] <;> rfl
    have hon (t : ℝ) : (riding t).isEnabled rider.lock.constraint = .ok true := by
      rw [State.isEnabled, State.slot, hslots]
      rfl
    have hanchor (t : ℝ) : rider.lock.anchor (riding t) = .ok (some start) := by
      rw [StickingBall.anchor, State.anchor, State.slot, hslots]
      rfl
    -- nothing more is asked of the run
    clear_value riding
    obtain ⟨p, v, e, htold, hdrift⟩ := hrider rider riding (fun _ => true) rfl hcarried hon
    obtain ⟨hd, -, hpoint⟩ := hdrift start
    obtain ⟨-, -, hstays⟩ := hpoint rfl
    have hslip (τ : ℝ) : v τ = ⟨0, 0⟩ := by
      have hv : Unilateral.slipVelocity (Contact.gripping rider) (riding τ) =
          .ok (some (point.slipVelocity (b τ) (b τ))) :=
        Contact.slipVelocity_of_carried rfl (hcarried τ) (hon τ)
      have hzero : point.slipVelocity (b τ) (b τ) = ⟨0, 0⟩ := by
        ext <;> simp [Ball.slipVelocity, Vec3.dot]
      rw [(htold τ).2.1, hzero] at hv
      exact Option.some.inj (Except.ok.inj hv)
    have hstart : p 0 = start := by
      have hp := GrippingTouch.contactCoordinates_of_carried (c := rider) (hcarried 0)
      exact Option.some.inj (Except.ok.inj ((htold 0).1.symm.trans hp))
    rw [hd t rfl (hanchor t), hstays 0 t ht fun τ _ => hslip τ]
    simp only [hstart, sub_self]

end OneSided
