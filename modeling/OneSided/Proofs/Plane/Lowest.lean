import OneSided.Proofs.Plane.Components
import OneSided.Proofs.Space.Superposed

/-! Balls and half spaces as sets of points, in exact arithmetic. Main statement: the
separation of a ball is the least height of its points above the plane, found at the point of
contact alone, and so it tells whether the ball stays outside. -/

namespace OneSided

/-- The points of space that lie in the half space when its body moves as `m`. -/
def HalfSpace.region {α : Type} [Scalar α] (h : HalfSpace α) (m : Motion α) : Set (Vec3 α) :=
  m.locate '' {p | h.height ≤ h.normal.dot p}

/-- The points of space that belong to the ball when its body moves as `m`. -/
def Ball.extent {α : Type} [Scalar α] (g : Ball α) (m : Motion α) : Set (Vec3 α) :=
  {x | (x - m.locate g.centre).norm ≤ g.radius}

variable [Grain]

namespace HalfSpace

variable {h : HalfSpace ℝ} {m : Motion ℝ}

theorem dot_normal_self (hh : h.frame.normSq = 1) (hm : m.pose.rotation.normSq = 1) :
    (m.direct h.normal).dot (m.direct h.normal) = 1 := by
  rw [Motion.dot_direct hm, normal, Rotation.dot_rotate _ _ hh]
  simp [Vec3.dot, Vec3.ez]

/-- A point that is fixed in the body keeps its height. -/
theorem elevation_locate (hm : m.pose.rotation.normSq = 1) (p : Vec3 ℝ) :
    h.elevation m (m.locate p) = h.normal.dot p - h.height := by
  rw [elevation, Motion.locate_sub_origin, Motion.dot_direct hm]

theorem mem_region_iff (hm : m.pose.rotation.normSq = 1) (x : Vec3 ℝ) :
    x ∈ h.region m ↔ 0 ≤ h.elevation m x := by
  constructor
  · rintro ⟨p, hp, rfl⟩
    rw [elevation_locate hm]
    exact sub_nonneg.2 hp
  · intro hx
    have hlocate : m.locate (m.pose.rotation.unrotate (x - m.origin)) = x := by
      rw [Motion.locate, Pose.place, Rotation.rotate_unrotate hm]
      ext <;> simp [Motion.origin]
    refine ⟨_, ?_, hlocate⟩
    rw [← hlocate, elevation_locate hm] at hx
    exact sub_nonneg.1 hx

end HalfSpace

namespace Ball

/-- The separation is told of the centre. -/
theorem elevation_sub_separation (g : Ball ℝ) (b f : Motion ℝ) (x : Vec3 ℝ) :
    g.plane.elevation b x - g.separation b f =
      (b.direct g.plane.normal).dot (x - f.locate g.centre) + g.radius := by
  simp only [HalfSpace.elevation, separation, Vec3.dot, Vec3.sub_x, Vec3.sub_y, Vec3.sub_z]
  ring

variable {g : Ball ℝ} {b f : Motion ℝ} (hg : g.plane.frame.normSq = 1)
  (hb : b.pose.rotation.normSq = 1)
include hg hb

theorem elevation_contactPoint : g.plane.elevation b (g.contactPoint b f) = g.separation b f := by
  rw [← planeCoordinates_z hg hb, planeCoordinates_contactPoint hg hb]

/-- A point of the ball is the nearer to the point of contact the lower it lies. -/
theorem dot_sub_contactPoint (x : Vec3 ℝ) :
    (x - g.contactPoint b f).dot (x - g.contactPoint b f) =
      (x - f.locate g.centre).dot (x - f.locate g.centre) - g.radius ^ 2 +
        2 * g.radius * (g.plane.elevation b x - g.separation b f) := by
  have hn := HalfSpace.dot_normal_self hg hb
  rw [elevation_sub_separation]
  simp only [contactPoint, Vec3.dot, Vec3.sub_x, Vec3.sub_y, Vec3.sub_z, Vec3.scale_x,
    Vec3.scale_y, Vec3.scale_z] at hn ⊢
  linear_combination g.radius ^ 2 * hn

variable (hr : 0 ≤ g.radius)
include hr

theorem contactPoint_mem_extent : g.contactPoint b f ∈ g.extent f := by
  have hsq := dot_sub_contactPoint (f := f) hg hb (g.contactPoint b f)
  rw [elevation_contactPoint hg hb, Vec3.sub_eq_zero_iff.2 rfl, sub_self, mul_zero, add_zero,
    Vec3.zero_dot] at hsq
  exact (Vec3.norm_le_iff hr).2 (sub_eq_zero.1 hsq.symm).le

/-- From the centre no point of the ball is further down than the radius. -/
theorem separation_le_elevation {x : Vec3 ℝ} (hx : x ∈ g.extent f) :
    g.separation b f ≤ g.plane.elevation b x := by
  have hsq := (Vec3.norm_le_iff hr).1 hx
  have hdot := Vec3.dot_sq_le (b.direct g.plane.normal) (x - f.locate g.centre)
  rw [HalfSpace.dot_normal_self hg hb, one_mul] at hdot
  have hdown := (abs_le_of_sq_le_sq' (hdot.trans hsq) hr).1
  rw [← sub_nonneg, elevation_sub_separation]
  linarith

theorem eq_contactPoint_of_elevation {x : Vec3 ℝ} (hx : x ∈ g.extent f)
    (h : g.plane.elevation b x = g.separation b f) : x = g.contactPoint b f := by
  have hsq := (Vec3.norm_le_iff hr).1 hx
  refine Vec3.sub_eq_zero_iff.1 (Vec3.eq_zero_of_dot_self ?_)
  rw [dot_sub_contactPoint hg hb, h, sub_self, mul_zero, add_zero]
  exact sub_nonpos.2 hsq

theorem extent_subset_region_iff : g.extent f ⊆ g.plane.region b ↔ 0 ≤ g.separation b f := by
  constructor
  · intro h
    rw [← elevation_contactPoint hg hb]
    exact (HalfSpace.mem_region_iff hb _).1 (h (contactPoint_mem_extent hg hb hr))
  · intro h x hx
    exact (HalfSpace.mem_region_iff hb x).2 (h.trans (separation_le_elevation hg hb hr hx))

end Ball

theorem Contact.sense_of_ball {c : Contact ℝ} {g : Ball ℝ}
    (hc : c.lock?.bind Lock.ball? = some g) : Unilateral.sense c = .positive := by
  cases c with
  | gliding | gripping => rfl
  | stop | prescribed => cases hc

/-- The separation of a ball is the least height above the plane among the points of the ball,
and the point of contact is the only one at that height. So the position error of a contact of
the ball, counted in its sense, is at least zero just when all of the ball lies in the half
space. -/
theorem separation_least (g : Ball ℝ) (hg : g.plane.frame.normSq = 1) (hr : 0 ≤ g.radius)
    {b : Motion ℝ} (hb : b.pose.rotation.normSq = 1) (f : Motion ℝ) :
    let height (x : Vec3 ℝ) := (b.direct g.plane.normal).dot (x - b.origin) - g.plane.height
    IsLeast (height '' g.extent f) (g.separation b f) ∧
    (∀ x ∈ g.extent f, height x = g.separation b f ↔ x = g.contactPoint b f) ∧
    g.contactPoint b f ∈ g.extent f ∧
    ∀ (c : Contact ℝ) (s : State ℝ) (on : Bool), c.lock?.bind Lock.ball? = some g →
      g.Carried s b f → Unilateral.isEnabled c s = .ok on →
      ∃ e, Unilateral.positionError c s = .ok e ∧
        (0 ≤ (Unilateral.sense c).apply e ↔ g.extent f ⊆ g.plane.region b) := by
  intro height
  have hcontact := Ball.contactPoint_mem_extent (f := f) hg hb hr
  have hheight : height (g.contactPoint b f) = g.separation b f :=
    Ball.elevation_contactPoint hg hb
  refine ⟨⟨⟨_, hcontact, hheight⟩, ?_⟩, fun x hx => ⟨?_, ?_⟩, hcontact,
    fun c s on hc hs hon => ?_⟩
  · rintro _ ⟨x, hx, rfl⟩
    exact Ball.separation_le_elevation hg hb hr hx
  · exact Ball.eq_contactPoint_of_elevation hg hb hr hx
  · rintro rfl
    exact hheight
  · obtain ⟨hp, -, -⟩ := Contact.errors_of_carried hc hs hon
    refine ⟨_, hp, ?_⟩
    rw [Contact.sense_of_ball hc]
    exact (Ball.extent_subset_region_iff hg hb hr).symm

theorem Ball.normal_aboveTurntable :
    Ball.aboveTurntable.plane.normal = ⟨120 / 169, 0, 119 / 169⟩ := by
  ext <;> norm_num [aboveTurntable, HalfSpace.normal, Rotation.rotate, Rotation.vector, Vec3.ez]

omit [Grain] in
/-- A sphere above a turntable, while its lock is off. As the turntables start, the sphere
reaches through the plane, which its centre is above. -/
theorem separation_least_of_turntables :
    let _ : Grain := ⟨2⁻¹ ^ 52⟩
    let ball : Ball ℝ := .aboveTurntable
    let touch : Contact ℝ := .gripping ⟨.sphere, ⟨⟨0⟩, ball⟩, ⟨1, none⟩, ⟨0, 0, 0, none⟩, none⟩
    let b := Motion.turntable 1 (-1)
    let f := Motion.turntable (-1) 1
    ball.plane.frame.normSq = 1 ∧ 0 ≤ ball.radius ∧ (∀ t, (b t).pose.rotation.normSq = 1) ∧
      (∀ t, IsLeast (ball.plane.elevation (b t) '' ball.extent (f t))
        (ball.separation (b t) (f t))) ∧
      (f 0).locate ball.centre ∈ ball.plane.region (b 0) ∧
      Unilateral.positionError touch (Workshop.turntablesAt false 0) = .ok (-99 / 169) ∧
      ¬ ball.extent (f 0) ⊆ ball.plane.region (b 0) := by
  intro _ ball touch b f
  have hg : ball.plane.frame.normSq = 1 := Ball.unit_aboveTurntable
  have hr : 0 ≤ ball.radius := zero_le_one
  have hb (t : ℝ) : (b t).pose.rotation.normSq = 1 := (rigid_turntable 1 (-1)).unit t
  have hleast (t : ℝ) := separation_least ball hg hr (hb t) (f t)
  obtain ⟨e, he, hinside⟩ := (hleast 0).2.2.2 touch _ false rfl
    (Ball.carried_aboveTurntable false 0) rfl
  have hseparation : ball.separation (b 0) (f 0) = -99 / 169 := by
    rw [Ball.separation, Ball.normal_aboveTurntable, Motion.direct_turntable]
    norm_num [ball, b, f, Ball.aboveTurntable, Motion.turntable, Motion.locate, Motion.origin,
      Pose.place, Rotation.rotate, Rotation.vector, Vec3.dot]
  have hvalue : Except.ok e = .ok (ball.separation (b 0) (f 0)) :=
    he.symm.trans (Contact.errors_of_carried rfl (Ball.carried_aboveTurntable false 0) rfl).1
  rw [hseparation] at hvalue
  cases hvalue
  refine ⟨hg, hr, hb, fun t => (hleast t).1, ?_, he, fun h => ?_⟩
  · rw [HalfSpace.mem_region_iff (hb 0)]
    have hcentre : ball.separation (b 0) (f 0) =
      ball.plane.elevation (b 0) ((f 0).locate ball.centre) - 1 := rfl
    linarith
  · have hpositive : (0 : ℝ) ≤ -99 / 169 := hinside.2 h
    norm_num at hpositive

end OneSided
