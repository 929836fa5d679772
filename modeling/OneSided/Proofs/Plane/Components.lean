import OneSided.Proofs.Plane.Rates
import OneSided.Proofs.Space.Axes

/-! The axes of a half space in space: two tangent axes and the normal. A turn back by the
frame reads components along them, of velocities and of places. Main statements: what a ball
tells of its slip and of the rate of its separation are the three components of one velocity,
that of the follower against the base at the point of contact; and plane coordinates undo the
map that goes along the axes, with the separation as the last coordinate of that point. -/

namespace OneSided

namespace HalfSpace

variable {α : Type}

/-- The half space with its tangent axes turned about the normal. -/
def withFrame (h : HalfSpace α) (frame : Rotation α) : HalfSpace α := { h with frame := frame }

variable [Scalar α]

/-- How far a point of space lies above the plane; negative inside. -/
def elevation (h : HalfSpace α) (m : Motion α) (p : Vec3 α) : α :=
  (m.direct h.normal).dot (p - m.origin) - h.height

/-- The point of space that lies at `q` along the axes, the last component counted from the
plane. -/
def pointAt (h : HalfSpace α) (m : Motion α) (q : Vec3 α) : Vec3 α :=
  let (x, y, n) := h.axesIn m
  m.origin + x.scale q.x + y.scale q.y + n.scale (q.z + h.height)

end HalfSpace

/-- The ball above the same half space with other tangent axes. -/
def Ball.withFrame {α : Type} (g : Ball α) (frame : Rotation α) : Ball α :=
  { g with plane := g.plane.withFrame frame }

variable [Grain]

theorem Ball.unit_aboveTurntable : Ball.aboveTurntable.plane.frame.normSq = 1 := by
  norm_num [aboveTurntable, Rotation.normSq]

namespace HalfSpace

variable {h : HalfSpace ℝ} {m : Motion ℝ} (hh : h.frame.normSq = 1)
  (hm : m.pose.rotation.normSq = 1)
include hh hm

theorem unit_frameIn : (h.frameIn m).normSq = 1 := by
  rw [frameIn, Rotation.normSq_mul, hm, hh, one_mul]

theorem frameIn_rotate_ez : (h.frameIn m).rotate .ez = m.direct h.normal :=
  Rotation.rotate_mul hm hh .ez

end HalfSpace

/-! ### The velocity at the point of contact -/

namespace Ball

/-- The rate of the separation is told of the centre, but it is that of the point of contact
too, as a ball that spins comes no closer by that. -/
theorem separationRate_eq_slide (g : Ball ℝ) (b f : Motion ℝ) :
    g.separationRate b f = (b.direct g.plane.normal).dot (g.slide b f) := by
  simp only [separationRate, normalErrors, slide, contactPoint, Motion.velocityAt,
    Motion.directionRate, Vec3.dot, Vec3.add_x, Vec3.add_y, Vec3.add_z, Vec3.sub_x, Vec3.sub_y,
    Vec3.sub_z, Vec3.cross_x, Vec3.cross_y, Vec3.cross_z, Vec3.scale_x, Vec3.scale_y,
    Vec3.scale_z]
  ring

section Velocity

variable {g : Ball ℝ} {b : Motion ℝ} (hg : g.plane.frame.normSq = 1)
  (hb : b.pose.rotation.normSq = 1) (f : Motion ℝ)
include hg hb

/-- What a sticking ball holds at zero is the velocity at the point of contact. -/
theorem stickingVelocity_eq_unrotate :
    g.stickingVelocity b f = (g.plane.frameIn b).unrotate (g.slide b f) := by
  rw [Rotation.unrotate_eq_axes, HalfSpace.frameIn_rotate_ez hg hb, ← separationRate_eq_slide,
    Vec3.dot_comm, Vec3.dot_comm (Rotation.rotate _ .ey)]
  rfl

theorem slide_eq_axes :
    let (x, y, n) := g.plane.axesIn b
    g.slide b f = x.scale (g.slipVelocity b f).x + y.scale (g.slipVelocity b f).y +
      n.scale (g.separationRate b f) := by
  have hturn := Rotation.rotate_unrotate (HalfSpace.unit_frameIn hg hb) (g.slide b f)
  rw [← stickingVelocity_eq_unrotate hg hb, Rotation.rotate_eq_axes] at hturn
  exact hturn.symm

theorem slide_norm_sq :
    (g.slide b f).norm ^ 2 = (g.slipVelocity b f).norm ^ 2 + g.separationRate b f ^ 2 := by
  rw [Vec3.norm_sq, ← Rotation.dot_unrotate _ _ (HalfSpace.unit_frameIn hg hb),
    ← stickingVelocity_eq_unrotate hg hb, Vec2.norm_sq, sq, sq, sq]
  rfl

theorem stickingVelocity_eq_zero_iff :
    g.stickingVelocity b f = 0 ↔
      f.velocityAt (g.contactPoint b f) = b.velocityAt (g.contactPoint b f) := by
  rw [stickingVelocity_eq_unrotate hg hb,
    Rotation.unrotate_eq_zero_iff (HalfSpace.unit_frameIn hg hb), slide, Vec3.sub_eq_zero_iff]

end Velocity

/-! ### Other tangent axes -/

section WithFrame

variable {g : Ball ℝ} {b : Motion ℝ} {frame : Rotation ℝ} (h : frame.rotate .ez = g.plane.normal)
include h

theorem slide_withFrame (b f : Motion ℝ) : (g.withFrame frame).slide b f = g.slide b f := by
  have hn : (g.withFrame frame).plane.normal = g.plane.normal := h
  simp only [slide, contactPoint, hn]
  rfl

theorem separationRate_withFrame (b f : Motion ℝ) :
    (g.withFrame frame).separationRate b f = g.separationRate b f := by
  have hn : (g.withFrame frame).plane.normal = g.plane.normal := h
  rw [separationRate_eq_slide, separationRate_eq_slide, slide_withFrame h, hn]

/-- What the velocity is besides its normal component has one length, along whatever axes it
is told. -/
theorem slip_norm_withFrame (hg : g.plane.frame.normSq = 1) (hb : b.pose.rotation.normSq = 1)
    (hframe : frame.normSq = 1) (f : Motion ℝ) :
    ((g.withFrame frame).slipVelocity b f).norm = (g.slipVelocity b f).norm := by
  have hunit : (g.withFrame frame).plane.frame.normSq = 1 := hframe
  have hslide := slide_norm_sq hg hb f
  rw [← slide_withFrame h, slide_norm_sq hunit hb, separationRate_withFrame h,
    add_left_inj] at hslide
  exact (pow_left_inj₀ (Vec2.norm_nonneg _) (Vec2.norm_nonneg _) two_ne_zero).1 hslide

end WithFrame

end Ball

/-- At the point of contact the follower has a velocity against the base. Its components along
the two tangent axes are the slip of the ball, and the one along the normal is the rate of the
separation, so that slip and rate together have its length, whichever way the tangent axes are
turned. A lock that keeps the ball from slipping finds no error just when the two material
points that touch have one velocity. -/
theorem slide_along_axes (g : Ball ℝ) (hg : g.plane.frame.normSq = 1) {b : Motion ℝ}
    (hb : b.pose.rotation.normSq = 1) (f : Motion ℝ) :
    let c := f.locate g.centre - (b.direct g.plane.normal).scale g.radius
    let w := f.velocityAt c - b.velocityAt c
    let (x, y, n) := g.plane.axesIn b
    let slip := g.slipVelocity b f
    let rate := (g.normalErrors b f).velocity
    (slip.x = w.dot x ∧ slip.y = w.dot y ∧ rate = w.dot n) ∧
    w = x.scale slip.x + y.scale slip.y + n.scale rate ∧
    w.norm ^ 2 = slip.norm ^ 2 + rate ^ 2 ∧
    (∀ frame : Rotation ℝ, frame.normSq = 1 → frame.rotate .ez = g.plane.normal →
      ((g.withFrame frame).slipVelocity b f).norm = slip.norm ∧
      ((g.withFrame frame).normalErrors b f).velocity = rate) ∧
    ∀ (l : StickingBall ℝ) (s : State ℝ) (on : Bool), l.ball = g → g.Carried s b f →
      s.isEnabled l.constraint = .ok on →
      ∃ e, l.velocityErrors s = .ok (if on then some e else none) ∧
        e = ⟨slip.x, slip.y, rate⟩ ∧ (e = 0 ↔ f.velocityAt c = b.velocityAt c) := by
  intro c w
  have hn : (g.plane.frameIn b).rotate .ez = b.direct g.plane.normal :=
    HalfSpace.frameIn_rotate_ez hg hb
  have hrate := (g.separationRate_eq_slide b f).trans (Vec3.dot_comm _ _)
  rw [← hn] at hrate
  refine ⟨⟨rfl, rfl, hrate⟩, Ball.slide_eq_axes hg hb f, Ball.slide_norm_sq hg hb f,
    fun frame hframe h => ?_, fun l s on hl hs hon => ?_⟩
  · exact ⟨Ball.slip_norm_withFrame h hg hb hframe f, Ball.separationRate_withFrame h b f⟩
  · subst hl
    obtain ⟨-, hv, -⟩ := StickingBall.errors_of_carried hs hon
    exact ⟨_, hv, rfl, Ball.stickingVelocity_eq_zero_iff hg hb f⟩

omit [Grain] in
/-- A sphere on one turntable above another, its tangent axes as they are and turned about
the normal. Before the turntables start to move the sphere does not slip. -/
theorem slide_along_axes_of_turntables :
    let _ : Grain := ⟨2⁻¹ ^ 52⟩
    let lock : StickingBall ℝ := ⟨⟨0⟩, .aboveTurntable⟩
    let turned : Rotation ℝ := lock.ball.plane.frame * ⟨0, 0, 3 / 5, 4 / 5⟩
    let b := Motion.turntable 1 (-1)
    let f := Motion.turntable (-1) 1
    lock.ball.plane.frame.normSq = 1 ∧ turned.normSq = 1 ∧
      turned.rotate .ez = lock.ball.plane.normal ∧ (∀ t, (b t).pose.rotation.normSq = 1) ∧
      (∀ t, (lock.ball.slide (b t) (f t)).norm ^ 2 =
        (lock.ball.slipVelocity (b t) (f t)).norm ^ 2 +
          (lock.ball.normalErrors (b t) (f t)).velocity ^ 2) ∧
      (∀ t, ((lock.ball.withFrame turned).slipVelocity (b t) (f t)).norm =
        (lock.ball.slipVelocity (b t) (f t)).norm) ∧
      lock.velocityErrors (Workshop.turntablesAt true 0) = .ok (some 0) := by
  intro _ lock turned b f
  have hg : lock.ball.plane.frame.normSq = 1 := Ball.unit_aboveTurntable
  have hspin : (⟨0, 0, 3 / 5, 4 / 5⟩ : Rotation ℝ).normSq = 1 := by
    norm_num [Rotation.normSq]
  have hturned : turned.normSq = 1 := by
    rw [Rotation.normSq_mul, hg, hspin, one_mul]
  have hnormal : turned.rotate .ez = lock.ball.plane.normal := by
    rw [Rotation.rotate_mul hg hspin]
    refine congrArg _ ?_
    ext <;> norm_num [Rotation.rotate, Rotation.vector, Vec3.ez]
  have hb (t : ℝ) : (b t).pose.rotation.normSq = 1 := (rigid_turntable 1 (-1)).unit t
  have haxes (t : ℝ) := slide_along_axes lock.ball hg (hb t) (f t)
  refine ⟨hg, hturned, hnormal, hb, fun t => (haxes t).2.2.1,
    fun t => ((haxes t).2.2.2.1 turned hturned hnormal).1, ?_⟩
  obtain ⟨-, -, -, -, hstick⟩ := haxes 0
  obtain ⟨e, he, -, hzero⟩ := hstick lock (Workshop.turntablesAt true 0) true rfl
    (Ball.carried_aboveTurntable true 0) rfl
  refine he.trans (congrArg _ (congrArg some (hzero.2 ?_)))
  -- neither turntable moves yet, nor spins
  ext <;> simp [b, f, Motion.turntable, Motion.velocityAt]

/-! ### Plane coordinates -/

namespace HalfSpace

theorem pointAt_eq (h : HalfSpace ℝ) (m : Motion ℝ) (q : Vec3 ℝ) :
    h.pointAt m q = m.origin + (h.frameIn m).rotate ⟨q.x, q.y, q.z + h.height⟩ := by
  rw [Rotation.rotate_eq_axes]
  ext <;> simp [pointAt, axesIn, add_assoc]

/-- Along the normal only the last coordinate changes. -/
theorem pointAt_sub_normal {h : HalfSpace ℝ} {m : Motion ℝ} (hh : h.frame.normSq = 1)
    (hm : m.pose.rotation.normSq = 1) (q : Vec3 ℝ) (k : ℝ) :
    h.pointAt m ⟨q.x, q.y, q.z - k⟩ = h.pointAt m q - (m.direct h.normal).scale k := by
  simp only [pointAt, axesIn, frameIn_rotate_ez hh hm]
  ext
  all_goals
    simp only [Vec3.add_x, Vec3.add_y, Vec3.add_z, Vec3.sub_x, Vec3.sub_y, Vec3.sub_z,
      Vec3.scale_x, Vec3.scale_y, Vec3.scale_z]
    ring

end HalfSpace

namespace Ball

variable {g : Ball ℝ} {b : Motion ℝ} (hg : g.plane.frame.normSq = 1)
  (hb : b.pose.rotation.normSq = 1)
include hg hb

theorem planeCoordinates_pointAt (q : Vec3 ℝ) :
    g.planeCoordinates b (g.plane.pointAt b q) = q := by
  have hway : g.plane.pointAt b q - b.origin =
      (g.plane.frameIn b).rotate ⟨q.x, q.y, q.z + g.plane.height⟩ := by
    rw [HalfSpace.pointAt_eq]
    ext <;> simp
  rw [planeCoordinates, hway, Rotation.unrotate_rotate (HalfSpace.unit_frameIn hg hb)]
  ext <;> simp

theorem pointAt_planeCoordinates (p : Vec3 ℝ) :
    g.plane.pointAt b (g.planeCoordinates b p) = p := by
  simp only [HalfSpace.pointAt_eq, planeCoordinates, sub_add_cancel]
  change b.origin + (g.plane.frameIn b).rotate ((g.plane.frameIn b).unrotate (p - b.origin)) = p
  rw [Rotation.rotate_unrotate (HalfSpace.unit_frameIn hg hb)]
  ext <;> simp

theorem planeCoordinates_z (p : Vec3 ℝ) :
    (g.planeCoordinates b p).z = g.plane.elevation b p := by
  rw [planeCoordinates, Rotation.unrotate_eq_axes, HalfSpace.frameIn_rotate_ez hg hb]
  rfl

theorem planeCoordinates_sub_normal (p : Vec3 ℝ) (k : ℝ) :
    g.planeCoordinates b (p - (b.direct g.plane.normal).scale k) =
      ⟨(g.planeCoordinates b p).x, (g.planeCoordinates b p).y, g.plane.elevation b p - k⟩ := by
  have hdown := HalfSpace.pointAt_sub_normal hg hb (g.planeCoordinates b p) k
  rw [pointAt_planeCoordinates hg hb] at hdown
  rw [← hdown, planeCoordinates_pointAt hg hb, planeCoordinates_z hg hb]

theorem planeCoordinates_contactPoint (f : Motion ℝ) :
    g.planeCoordinates b (g.contactPoint b f) =
      ⟨(g.planeCoordinates b (f.locate g.centre)).x, (g.planeCoordinates b (f.locate g.centre)).y,
        g.separation b f⟩ :=
  planeCoordinates_sub_normal hg hb _ _

theorem planeCoordinates_foot (f : Motion ℝ) :
    g.planeCoordinates b (g.foot b f) =
      ⟨(g.planeCoordinates b (f.locate g.centre)).x, (g.planeCoordinates b (f.locate g.centre)).y,
        0⟩ := by
  have h := planeCoordinates_sub_normal hg hb (f.locate g.centre)
    (g.plane.elevation b (f.locate g.centre))
  rwa [sub_self] at h

end Ball

/-- A touch that can stick tells the point of contact in plane coordinates. -/
theorem GrippingTouch.contactCoordinates_of_carried {c : GrippingTouch ℝ} {s : State ℝ}
    {b f : Motion ℝ} (hs : c.lock.ball.Carried s b f) :
    Unilateral.contactCoordinates (Contact.gripping c) s =
      .ok (some (c.lock.ball.contactCoordinates b f)) := by
  change (c.lock.contactCoordinates s >>= fun q => pure (some q)) = _
  rw [StickingBall.contactCoordinates, hs.measure]
  rfl

/-- Plane coordinates undo the map that goes from the origin of the base along the plane axes,
and are undone by it. The foot of a ball, its centre and its point of contact lie above one
another, the foot on the plane and the point of contact at the separation; and this is the
position error of a touch with friction, enabled or not. -/
theorem plane_coordinates_inverse (g : Ball ℝ) (hg : g.plane.frame.normSq = 1) {b : Motion ℝ}
    (hb : b.pose.rotation.normSq = 1) :
    let (x, y, n) := g.plane.axesIn b
    let pointAt (q : Vec3 ℝ) :=
      b.origin + x.scale q.x + y.scale q.y + n.scale (q.z + g.plane.height)
    Function.LeftInverse (g.planeCoordinates b) pointAt ∧
    Function.RightInverse (g.planeCoordinates b) pointAt ∧
    ∀ f : Motion ℝ,
      let q := g.planeCoordinates b (f.locate g.centre)
      g.planeCoordinates b (g.contactPoint b f) = ⟨q.x, q.y, g.separation b f⟩ ∧
      g.planeCoordinates b (g.foot b f) = ⟨q.x, q.y, 0⟩ ∧
      ∀ (c : GrippingTouch ℝ) (s : State ℝ) (on : Bool), c.lock.ball = g → g.Carried s b f →
        s.isEnabled c.lock.constraint = .ok on →
        ∃ p, Unilateral.contactCoordinates (Contact.gripping c) s = .ok (some p) ∧
          Unilateral.positionError (Contact.gripping c) s = .ok p.z := by
  refine ⟨Ball.planeCoordinates_pointAt hg hb, Ball.pointAt_planeCoordinates hg hb, fun f => ?_⟩
  have hcontact := Ball.planeCoordinates_contactPoint hg hb f
  refine ⟨hcontact, Ball.planeCoordinates_foot hg hb f, fun c s on hc hs hon => ?_⟩
  subst hc
  have hp := (GrippingTouch.errors_of_carried hs hon).1
  have hz : c.lock.ball.separation b f = (c.lock.ball.contactCoordinates b f).z :=
    (congrArg Vec3.z hcontact).symm
  exact ⟨_, GrippingTouch.contactCoordinates_of_carried hs, hp.trans (congrArg Except.ok hz)⟩

omit [Grain] in
/-- A sphere above a turntable, while its lock is off. A point three above the plane, off the
axes, keeps its coordinates at all times. -/
theorem plane_coordinates_inverse_of_turntables :
    let _ : Grain := ⟨2⁻¹ ^ 52⟩
    let ball : Ball ℝ := .aboveTurntable
    let touch : Contact ℝ := .gripping ⟨.sphere, ⟨⟨0⟩, ball⟩, ⟨1, none⟩, ⟨0, 0, 0, none⟩, none⟩
    let b := Motion.turntable 1 (-1)
    let f := Motion.turntable (-1) 1
    ball.plane.frame.normSq = 1 ∧ (∀ t, (b t).pose.rotation.normSq = 1) ∧
      (∀ t, ball.planeCoordinates (b t) (ball.plane.pointAt (b t) ⟨1, -2, 3⟩) = ⟨1, -2, 3⟩) ∧
      (∀ t, (ball.planeCoordinates (b t) (ball.foot (b t) (f t))).z = 0) ∧
      ∀ t, ∃ p,
        Unilateral.contactCoordinates touch (Workshop.turntablesAt false t) = .ok (some p) ∧
        Unilateral.positionError touch (Workshop.turntablesAt false t) = .ok p.z := by
  intro _ ball touch b f
  have hg : ball.plane.frame.normSq = 1 := Ball.unit_aboveTurntable
  have hb (t : ℝ) : (b t).pose.rotation.normSq = 1 := (rigid_turntable 1 (-1)).unit t
  have hinverse (t : ℝ) := plane_coordinates_inverse ball hg (hb t)
  refine ⟨hg, hb, fun t => (hinverse t).1 ⟨1, -2, 3⟩, fun t => ?_, fun t => ?_⟩
  · obtain ⟨-, hfoot, -⟩ := (hinverse t).2.2 (f t)
    exact congrArg Vec3.z hfoot
  · obtain ⟨-, -, htouch⟩ := (hinverse t).2.2 (f t)
    exact htouch _ _ false rfl (Ball.carried_aboveTurntable false t) rfl

end OneSided
