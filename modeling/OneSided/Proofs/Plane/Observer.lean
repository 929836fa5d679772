import OneSided.Proofs.Plane.Rates
import OneSided.Proofs.Space.Superposed

/-! Measures of a ball on bodies with a common motion superposed on theirs, in exact
arithmetic. Main statement: no measure depends on the observer, and between bodies that move
as one nothing separates and nothing slips. -/

namespace OneSided

variable [Grain]

namespace Ball

/-! ### Superposed bodies -/

section Superposed

variable (g : Ball ℝ) {k b f : Motion ℝ} (hk : k.pose.rotation.normSq = 1)
  (hb : b.pose.rotation.normSq = 1) (hf : f.pose.rotation.normSq = 1)
include hk hb hf

/-- The normal turns with the observer, and so does the way from the base to the centre. -/
theorem normalErrors_superpose :
    g.normalErrors (k.superpose b) (k.superpose f) = g.normalErrors b f := by
  have hp := Motion.locate_superpose hk hf g.centre
  have ho : (k.superpose b).origin = k.locate b.origin := rfl
  have hreach : (k.superpose f).locate g.centre - (k.superpose b).origin =
      k.direct (f.locate g.centre - b.origin) := by
    rw [hp, ho, Motion.locate_sub_locate]
  have hvelocity := Motion.velocityAt_superpose_sub hk f b (f.locate g.centre) b.origin
  rw [← hp, ← ho, Motion.velocityAt_origin, Motion.velocityAt_origin] at hvelocity
  have hacceleration := Motion.accelerationAt_superpose_sub hk f b (f.locate g.centre) b.origin
  rw [← hp, ← ho, Motion.accelerationAt_origin, Motion.accelerationAt_origin,
    Motion.velocityAt_origin] at hacceleration
  simp only [normalErrors, Motion.direct_superpose hk hb, Motion.directionRate_superpose hk,
    Motion.directionSecondRate_superpose hk, hvelocity, hacceleration, hreach,
    Motion.dot_direct hk, Motion.dot_turnRate hk, Motion.dot_turnSecondRate hk]

theorem contactPoint_superpose :
    g.contactPoint (k.superpose b) (k.superpose f) = k.locate (g.contactPoint b f) := by
  rw [contactPoint, Motion.locate_superpose hk hf, Motion.direct_superpose hk hb, contactPoint,
    ← Motion.locate_sub_direct]
  simp only [Motion.direct, Rotation.rotate_scale]

theorem slide_superpose :
    g.slide (k.superpose b) (k.superpose f) = k.direct (g.slide b f) := by
  have hc : g.contactPoint b f - g.contactPoint b f = 0 := by
    ext <;> simp
  rw [slide, g.contactPoint_superpose hk hb hf, Motion.velocityAt_superpose_sub hk, hc,
    Motion.turnRate_zero, slide]

/-- The velocity of the point of contact is carried along with the point. -/
theorem slideRate_superpose :
    g.slideRate (k.superpose b) (k.superpose f) =
      k.turnRate (g.slide b f) (g.slideRate b f) := by
  have hv : (k.superpose f).velocityAt ((k.superpose f).locate g.centre) -
      ((k.superpose b).directionRate ((k.superpose b).direct g.plane.normal)).scale g.radius =
      k.velocityAt (k.locate (g.contactPoint b f)) +
        k.direct (f.velocityAt (f.locate g.centre) -
          (b.directionRate (b.direct g.plane.normal)).scale g.radius) := by
    rw [Motion.locate_superpose hk hf, Motion.velocityAt_superpose hk,
      Motion.direct_superpose hk hb, Motion.directionRate_superpose hk]
    simp only [contactPoint, ← Motion.locate_sub_direct]
    simp only [Motion.velocityAt, Motion.turnRate, Motion.directionRate, Motion.direct,
      Rotation.rotate_sub, Rotation.rotate_scale]
    ext
    all_goals
      simp only [Vec3.add_x, Vec3.add_y, Vec3.add_z, Vec3.sub_x, Vec3.sub_y, Vec3.sub_z,
        Vec3.cross_x, Vec3.cross_y, Vec3.cross_z, Vec3.scale_x, Vec3.scale_y, Vec3.scale_z]
      ring
  simp only [slideRate, g.contactPoint_superpose hk hb hf, hv]
  exact Motion.velocityRateAlong_superpose_sub hk ..

theorem slipVelocity_superpose (hg : g.plane.frame.normSq = 1) :
    g.slipVelocity (k.superpose b) (k.superpose f) = g.slipVelocity b f := by
  rw [slipVelocity_of_unit hg (Motion.unit_superpose hk hb), slipVelocity_of_unit hg hb]
  simp only [g.slide_superpose hk hb hf, Motion.direct_superpose hk hb, Motion.dot_direct hk]

theorem slipAcceleration_superpose (hg : g.plane.frame.normSq = 1) :
    g.slipAcceleration (k.superpose b) (k.superpose f) = g.slipAcceleration b f := by
  rw [slipAcceleration_of_unit hg (Motion.unit_superpose hk hb), slipAcceleration_of_unit hg hb]
  simp only [g.slide_superpose hk hb hf, g.slideRate_superpose hk hb hf,
    Motion.direct_superpose hk hb, Motion.directionRate_superpose hk, Motion.dot_turnRate hk]

theorem contactCoordinates_superpose (hg : g.plane.frame.normSq = 1) :
    g.contactCoordinates (k.superpose b) (k.superpose f) = g.contactCoordinates b f := by
  have hframe : (g.plane.frameIn b).normSq = 1 := by
    rw [HalfSpace.frameIn, Rotation.normSq_mul, hb, hg, one_mul]
  have hturn : g.plane.frameIn (k.superpose b) = k.pose.rotation * g.plane.frameIn b :=
    Rotation.mul_assoc ..
  have ho : (k.superpose b).origin = k.locate b.origin := rfl
  simp only [contactCoordinates, planeCoordinates, g.contactPoint_superpose hk hb hf, ho, hturn,
    Motion.locate_sub_locate, Rotation.unrotate_mul hk hframe, Motion.direct,
    Rotation.unrotate_rotate hk]

end Superposed

/-! ### Bodies that move as one -/

section Together

variable (g : Ball ℝ) {b f : Motion ℝ} (h : b.Together f)
include h

theorem separationRates_of_together :
    g.separationRate b f = 0 ∧ g.separationSecondRate b f = 0 := by
  simp only [separationRate, separationSecondRate, normalErrors, h.velocityAt, h.accelerationAt]
  simp only [Motion.velocityAt, Motion.accelerationAt, Motion.directionRate,
    Motion.directionSecondRate, Vec3.dot, Vec3.add_x, Vec3.add_y, Vec3.add_z, Vec3.sub_x,
    Vec3.sub_y, Vec3.sub_z, Vec3.cross_x, Vec3.cross_y, Vec3.cross_z]
  constructor <;> ring

theorem slip_of_together : g.slipVelocity b f = ⟨0, 0⟩ ∧ g.slipAcceleration b f = ⟨0, 0⟩ := by
  have hsub (v : Vec3 ℝ) : v - v = 0 := by
    ext <;> simp
  simp only [slipVelocity, slipAcceleration, HalfSpace.axesIn, h.velocityAt, h.velocityRateAlong,
    hsub]
  simp [Vec3.dot]

end Together

end Ball

/-- Whatever motion is superposed on both bodies, the separation of a ball with its rates,
the slip with its rate and the point of contact in plane coordinates stay the same. While
two bodies move as one, as they do at all times when they are joined, nothing separates and
nothing slips between them, and the contacts of the ball tell so, enabled or not. -/
theorem measures_superpose (g : Ball ℝ) (hg : g.plane.frame.normSq = 1) :
    (∀ k b f : Motion ℝ, k.pose.rotation.normSq = 1 → b.pose.rotation.normSq = 1 →
      f.pose.rotation.normSq = 1 →
      let b' := k.superpose b
      let f' := k.superpose f
      g.separation b' f' = g.separation b f ∧
      g.normalErrors b' f' = g.normalErrors b f ∧
      g.slipVelocity b' f' = g.slipVelocity b f ∧
      g.slipAcceleration b' f' = g.slipAcceleration b f ∧
      g.contactCoordinates b' f' = g.contactCoordinates b f) ∧
    (∀ b f : Motion ℝ, b.Together f →
      (g.normalErrors b f).velocity = 0 ∧ (g.normalErrors b f).acceleration = 0 ∧
      g.slipVelocity b f = ⟨0, 0⟩ ∧ g.slipAcceleration b f = ⟨0, 0⟩ ∧
      ∀ (c : Contact ℝ) (s : State ℝ) (on : Bool), c.lock?.bind Lock.ball? = some g →
        g.Carried s b f → Unilateral.isEnabled c s = .ok on →
        Unilateral.velocityError c s = .ok 0 ∧ Unilateral.accelerationError c s = .ok 0 ∧
        Unilateral.slipVelocity c s =
          .ok (if Unilateral.hasFriction c then some ⟨0, 0⟩ else none)) ∧
    ∀ b f : ℝ → Motion ℝ, Rigid b → Rigid f → Joined b f → ∀ t, (b t).Together (f t) := by
  refine ⟨fun k b f hk hb hf => ?_, fun b f h => ?_, fun b f hb hf h => h.together hb hf⟩
  · have hnormal := g.normalErrors_superpose hk hb hf
    exact ⟨congrArg NormalErrors.position hnormal, hnormal, g.slipVelocity_superpose hk hb hf hg,
      g.slipAcceleration_superpose hk hb hf hg, g.contactCoordinates_superpose hk hb hf hg⟩
  · obtain ⟨hv, ha⟩ := g.separationRates_of_together h
    obtain ⟨hslip, hslipRate⟩ := g.slip_of_together h
    refine ⟨hv, ha, hslip, hslipRate, fun c s on hc hs hon => ?_⟩
    obtain ⟨-, hv', ha'⟩ := Contact.errors_of_carried hc hs hon
    have hslip' := Contact.slipVelocity_of_carried hc hs hon
    rw [hv] at hv'
    rw [ha] at ha'
    rw [hslip] at hslip'
    exact ⟨hv', ha', hslip'⟩

omit [Grain] in
/-- Two turntables seen from a third one, and a sphere that rides on its plane. -/
theorem measures_superpose_of_turntables :
    let _ : Grain := ⟨2⁻¹ ^ 52⟩
    let g := Ball.aboveTurntable
    let k : Motion ℝ := .turntable 2 3 1
    let b : ℝ → Motion ℝ := .turntable 1 (-1)
    let f : ℝ → Motion ℝ := .turntable (-1) 1
    let rider : ℝ → Motion ℝ := fun t => (b t).mount ⟨1, 2, 3⟩
    let touch : Contact ℝ := .gripping ⟨.sphere, ⟨⟨0⟩, g⟩, ⟨1, none⟩, ⟨0, 0, 0, none⟩, none⟩
    let riding (t : ℝ) : State ℝ := Operation.runAll
      [.modifyMotion ⟨1⟩ fun _ => b t, .modifyMotion ⟨2⟩ fun _ => rider t]
      Workshop.turntables.topology.allocate
    g.plane.frame.normSq = 1 ∧ k.pose.rotation.normSq = 1 ∧ Rigid b ∧ Rigid f ∧
      (∀ t, g.slipAcceleration (k.superpose (b t)) (k.superpose (f t)) =
        g.slipAcceleration (b t) (f t)) ∧
      Rigid rider ∧ Joined b rider ∧
      ∀ t, Unilateral.accelerationError touch (riding t) = .ok 0 ∧
        Unilateral.slipVelocity touch (riding t) = .ok (some ⟨0, 0⟩) := by
  intro _ g k b f rider touch riding
  have hg : g.plane.frame.normSq = 1 := by
    simp only [g, Ball.aboveTurntable, Rotation.normSq]
    norm_num
  have hk : k.pose.rotation.normSq = 1 := (rigid_turntable 2 3).unit 1
  have hb : Rigid b := rigid_turntable 1 (-1)
  have hf : Rigid f := rigid_turntable (-1) 1
  have hrider : Rigid rider := hb.mount _
  have hjoined : Joined b rider := .mount b _
  obtain ⟨hobserver, hzero, htogether⟩ := measures_superpose g hg
  refine ⟨hg, hk, hb, hf, fun t => ?_, hrider, hjoined, fun t => ?_⟩
  · obtain ⟨-, -, -, h, -⟩ := hobserver k (b t) (f t) hk (hb.unit t) (hf.unit t)
    exact h
  · obtain ⟨-, -, -, -, htouch⟩ := hzero _ _ (htogether b rider hb hrider hjoined t)
    obtain ⟨-, ha, hslip⟩ := htouch touch (riding t) false rfl ⟨rfl, rfl⟩ rfl
    exact ⟨ha, hslip⟩

end OneSided
