import OneSided.Proofs.Space.Rate

/-! A motion superposed on the motions of all bodies, as an observer on the move sees them, in
exact arithmetic. Points and directions are carried along, and what changes gets the rates
of being turned besides its own. Main statements: being turned cancels in the rates of a
product, and bodies that are joined at all times move as one at each instant. -/

namespace OneSided

/-! ### Superposition -/

/-- The motion of a body that moves as `m` among surroundings that move as `k`. -/
def Motion.superpose {α : Type} [Scalar α] (k m : Motion α) : Motion α where
  pose := ⟨k.pose.rotation * m.pose.rotation, k.direct m.origin + k.origin⟩
  velocity := k.velocity + k.spin.cross (k.direct m.origin) + k.direct m.velocity
  spin := k.spin + k.direct m.spin
  acceleration := k.acceleration + k.spinRate.cross (k.direct m.origin) +
    k.spin.cross (k.spin.cross (k.direct m.origin)) +
    (k.spin.cross (k.direct m.velocity)).scale (1 + 1) + k.direct m.acceleration
  spinRate := k.spinRate + k.spin.cross (k.direct m.spin) + k.direct m.spinRate

section Superposed

variable [Grain]

namespace Motion

/-- The rate of a vector `v` that changes at the rate `v'` among surroundings that turn. -/
noncomputable def turnRate (k : Motion ℝ) (v v' : Vec3 ℝ) : Vec3 ℝ :=
  k.directionRate (k.direct v) + k.direct v'

/-- The second rate of a vector among surroundings that turn. -/
noncomputable def turnSecondRate (k : Motion ℝ) (v v' v'' : Vec3 ℝ) : Vec3 ℝ :=
  k.directionSecondRate (k.direct v) + (k.directionRate (k.direct v')).scale (1 + 1) + k.direct v''

variable {k : Motion ℝ} (hk : k.pose.rotation.normSq = 1)
include hk

theorem dot_direct (a b : Vec3 ℝ) : (k.direct a).dot (k.direct b) = a.dot b :=
  Rotation.dot_rotate a b hk

omit hk in
theorem turnRate_zero (k : Motion ℝ) (v : Vec3 ℝ) : k.turnRate 0 v = k.direct v := by
  ext <;> simp [turnRate, directionRate, direct]

/-- Being turned does not change a product, so its rate cancels. -/
theorem dot_turnRate (a a' b b' : Vec3 ℝ) :
    (k.turnRate a a').dot (k.direct b) + (k.direct a).dot (k.turnRate b b') =
      a'.dot b + a.dot b' := by
  rw [← dot_direct hk a' b, ← dot_direct hk a b']
  simp only [turnRate, directionRate, Vec3.dot, Vec3.add_x, Vec3.add_y, Vec3.add_z,
    Vec3.cross_x, Vec3.cross_y, Vec3.cross_z]
  ring

theorem dot_turnSecondRate (a a' a'' b b' b'' : Vec3 ℝ) :
    (k.turnSecondRate a a' a'').dot (k.direct b) +
        (1 + 1) * (k.turnRate a a').dot (k.turnRate b b') +
        (k.direct a).dot (k.turnSecondRate b b' b'') =
      a''.dot b + (1 + 1) * a'.dot b' + a.dot b'' := by
  rw [← dot_direct hk a'' b, ← dot_direct hk a' b', ← dot_direct hk a b'']
  simp only [turnRate, turnSecondRate, directionRate, directionSecondRate, Vec3.dot,
    Vec3.add_x, Vec3.add_y, Vec3.add_z, Vec3.cross_x, Vec3.cross_y, Vec3.cross_z, Vec3.scale_x,
    Vec3.scale_y, Vec3.scale_z]
  ring

theorem direct_superpose {m : Motion ℝ} (hm : m.pose.rotation.normSq = 1) (d : Vec3 ℝ) :
    (k.superpose m).direct d = k.direct (m.direct d) :=
  Rotation.rotate_mul hk hm d

theorem unit_superpose {m : Motion ℝ} (hm : m.pose.rotation.normSq = 1) :
    (k.superpose m).pose.rotation.normSq = 1 := by
  have h := Rotation.normSq_mul k.pose.rotation m.pose.rotation
  rw [hk, hm, one_mul] at h
  exact h

theorem locate_superpose {m : Motion ℝ} (hm : m.pose.rotation.normSq = 1) (p : Vec3 ℝ) :
    (k.superpose m).locate p = k.locate (m.locate p) := by
  have h := direct_superpose hk hm p
  simp only [locate, Pose.place, direct] at h ⊢
  rw [h, Rotation.rotate_add]
  ext <;> simp [superpose, direct, origin, add_assoc]

omit hk in
theorem locate_sub_locate (k : Motion ℝ) (x y : Vec3 ℝ) :
    k.locate x - k.locate y = k.direct (x - y) := by
  simp only [locate, Pose.place, direct, Rotation.rotate_sub]
  ext <;> simp

omit hk in
theorem locate_sub_direct (k : Motion ℝ) (x d : Vec3 ℝ) :
    k.locate x - k.direct d = k.locate (x - d) := by
  simp only [locate, Pose.place, direct, Rotation.rotate_sub]
  ext
  all_goals
    simp only [Vec3.add_x, Vec3.add_y, Vec3.add_z, Vec3.sub_x, Vec3.sub_y, Vec3.sub_z]
    ring

theorem directionRate_superpose (m : Motion ℝ) (d : Vec3 ℝ) :
    (k.superpose m).directionRate (k.direct d) = k.turnRate d (m.directionRate d) := by
  simp only [turnRate, directionRate, superpose, direct, ← Rotation.cross_rotate _ _ hk]
  ext
  all_goals
    simp only [Vec3.add_x, Vec3.add_y, Vec3.add_z, Vec3.cross_x, Vec3.cross_y, Vec3.cross_z]
    ring

theorem directionSecondRate_superpose (m : Motion ℝ) (d : Vec3 ℝ) :
    (k.superpose m).directionSecondRate (k.direct d) =
      k.turnSecondRate d (m.directionRate d) (m.directionSecondRate d) := by
  simp only [turnSecondRate, directionRate, directionSecondRate, superpose, direct,
    Rotation.rotate_add, ← Rotation.cross_rotate _ _ hk]
  ext
  all_goals
    simp only [Vec3.add_x, Vec3.add_y, Vec3.add_z, Vec3.cross_x, Vec3.cross_y, Vec3.cross_z,
      Vec3.scale_x, Vec3.scale_y, Vec3.scale_z]
    ring

/-! ### Points of superposed bodies -/

theorem velocityAt_superpose (m : Motion ℝ) (x : Vec3 ℝ) :
    (k.superpose m).velocityAt (k.locate x) =
      k.velocityAt (k.locate x) + k.direct (m.velocityAt x) := by
  have hr : k.locate x - (k.superpose m).origin = k.direct (x - m.origin) :=
    k.locate_sub_locate ..
  simp only [velocityAt, hr, locate_sub_origin]
  simp only [direct, superpose, Rotation.rotate_add, Rotation.rotate_sub,
    ← Rotation.cross_rotate _ _ hk]
  ext
  all_goals
    simp only [Vec3.add_x, Vec3.add_y, Vec3.add_z, Vec3.sub_x, Vec3.sub_y, Vec3.sub_z,
      Vec3.cross_x, Vec3.cross_y, Vec3.cross_z]
    ring

/-- A point that passes `x` with velocity `v` is carried along as well. -/
theorem velocityRateAlong_superpose (m : Motion ℝ) (x v : Vec3 ℝ) :
    (k.superpose m).velocityRateAlong (k.locate x) (k.velocityAt (k.locate x) + k.direct v) =
      k.accelerationAt (k.locate x) + k.directionRate (k.direct v) +
        k.turnRate (m.velocityAt x) (m.velocityRateAlong x v) := by
  have hr : k.locate x - (k.superpose m).origin = k.direct (x - m.origin) :=
    k.locate_sub_locate ..
  simp only [velocityRateAlong, velocityAt, accelerationAt, turnRate, directionRate, hr,
    locate_sub_origin]
  simp only [direct, superpose, Rotation.rotate_add, Rotation.rotate_sub,
    ← Rotation.cross_rotate _ _ hk]
  ext
  all_goals
    simp only [Vec3.add_x, Vec3.add_y, Vec3.add_z, Vec3.sub_x, Vec3.sub_y, Vec3.sub_z,
      Vec3.cross_x, Vec3.cross_y, Vec3.cross_z, Vec3.scale_x, Vec3.scale_y, Vec3.scale_z]
    ring

theorem accelerationAt_superpose (m : Motion ℝ) (x : Vec3 ℝ) :
    (k.superpose m).accelerationAt (k.locate x) =
      k.accelerationAt (k.locate x) + k.directionRate (k.direct (m.velocityAt x)) +
        k.turnRate (m.velocityAt x) (m.accelerationAt x) := by
  rw [← velocityRateAlong_velocityAt, velocityAt_superpose hk, velocityRateAlong_superpose hk,
    velocityRateAlong_velocityAt]

/-! ### Between points of superposed bodies -/

omit hk in
theorem velocityAt_origin (m : Motion ℝ) : m.velocityAt m.origin = m.velocity := by
  ext <;> simp [velocityAt]

omit hk in
theorem accelerationAt_origin (m : Motion ℝ) : m.accelerationAt m.origin = m.acceleration := by
  ext <;> simp [accelerationAt]

theorem velocityAt_superpose_sub (m n : Motion ℝ) (x y : Vec3 ℝ) :
    (k.superpose m).velocityAt (k.locate x) - (k.superpose n).velocityAt (k.locate y) =
      k.turnRate (x - y) (m.velocityAt x - n.velocityAt y) := by
  rw [velocityAt_superpose hk, velocityAt_superpose hk]
  simp only [turnRate, directionRate, direct, Rotation.rotate_sub]
  simp only [velocityAt, locate_sub_origin, direct]
  ext
  all_goals
    simp only [Vec3.add_x, Vec3.add_y, Vec3.add_z, Vec3.sub_x, Vec3.sub_y, Vec3.sub_z,
      Vec3.cross_x, Vec3.cross_y, Vec3.cross_z]
    ring

theorem accelerationAt_superpose_sub (m n : Motion ℝ) (x y : Vec3 ℝ) :
    (k.superpose m).accelerationAt (k.locate x) - (k.superpose n).accelerationAt (k.locate y) =
      k.turnSecondRate (x - y) (m.velocityAt x - n.velocityAt y)
        (m.accelerationAt x - n.accelerationAt y) := by
  rw [accelerationAt_superpose hk, accelerationAt_superpose hk]
  simp only [turnRate, turnSecondRate, directionRate, directionSecondRate, direct,
    Rotation.rotate_sub]
  simp only [accelerationAt, locate_sub_origin, direct]
  ext
  all_goals
    simp only [Vec3.add_x, Vec3.add_y, Vec3.add_z, Vec3.sub_x, Vec3.sub_y, Vec3.sub_z,
      Vec3.cross_x, Vec3.cross_y, Vec3.cross_z, Vec3.scale_x, Vec3.scale_y, Vec3.scale_z]
    ring

/-- A point that two bodies have in common, sliding over both. -/
theorem velocityRateAlong_superpose_sub (m n : Motion ℝ) (x v : Vec3 ℝ) :
    let v' := k.velocityAt (k.locate x) + k.direct v
    (k.superpose m).velocityRateAlong (k.locate x) v' -
        (k.superpose n).velocityRateAlong (k.locate x) v' =
      k.turnRate (m.velocityAt x - n.velocityAt x)
        (m.velocityRateAlong x v - n.velocityRateAlong x v) := by
  intro v'
  rw [velocityRateAlong_superpose hk, velocityRateAlong_superpose hk]
  simp only [turnRate, directionRate, direct, Rotation.rotate_sub]
  ext
  all_goals
    simp only [Vec3.add_x, Vec3.add_y, Vec3.add_z, Vec3.sub_x, Vec3.sub_y, Vec3.sub_z,
      Vec3.cross_x, Vec3.cross_y, Vec3.cross_z]
    ring

end Motion

end Superposed

/-! ### Bodies that move as one -/

/-- At one instant a body moves as if it were a part of another. -/
structure Motion.Together {α : Type} [Scalar α] (b f : Motion α) : Prop where
  spin : f.spin = b.spin
  spinRate : f.spinRate = b.spinRate
  velocity : f.velocity = b.velocityAt f.origin
  acceleration : f.acceleration = b.accelerationAt f.origin

section Together

variable [Grain]

namespace Motion.Together

variable {b f : Motion ℝ} (h : b.Together f)
include h

theorem velocityAt (x : Vec3 ℝ) : f.velocityAt x = b.velocityAt x := by
  simp only [Motion.velocityAt, h.velocity, h.spin]
  ext
  all_goals
    simp only [Vec3.add_x, Vec3.add_y, Vec3.add_z, Vec3.sub_x, Vec3.sub_y, Vec3.sub_z,
      Vec3.cross_x, Vec3.cross_y, Vec3.cross_z]
    ring

theorem velocityRateAlong (x v : Vec3 ℝ) : f.velocityRateAlong x v = b.velocityRateAlong x v := by
  simp only [Motion.velocityRateAlong, h.acceleration, h.velocity, h.spin, h.spinRate,
    Motion.velocityAt, Motion.accelerationAt]
  ext
  all_goals
    simp only [Vec3.add_x, Vec3.add_y, Vec3.add_z, Vec3.sub_x, Vec3.sub_y, Vec3.sub_z,
      Vec3.cross_x, Vec3.cross_y, Vec3.cross_z]
    ring

theorem accelerationAt (x : Vec3 ℝ) : f.accelerationAt x = b.accelerationAt x := by
  rw [← velocityRateAlong_velocityAt, h.velocityAt, h.velocityRateAlong,
    velocityRateAlong_velocityAt]

end Motion.Together

/-- Every point of one body is a point of the other. -/
def Joined (b f : ℝ → Motion ℝ) : Prop := ∀ p, ∃ q, ∀ t, (f t).locate p = (b t).locate q

theorem Vec3.eq_of_cross {a b : Vec3 ℝ} (h : ∀ v, a.cross v = b.cross v) : a = b := by
  have hx := h ex
  have hy := h ey
  simp only [cross, ex, ey, mk.injEq] at hx hy
  ext
  · linarith [hy.2.2]
  · linarith [hx.2.2]
  · linarith [hx.2.1]

namespace Joined

variable {b f : ℝ → Motion ℝ} (h : Joined b f)
include h

theorem direct (d : Vec3 ℝ) : ∃ e, ∀ t, (f t).direct d = (b t).direct e := by
  obtain ⟨p, hp⟩ := h d
  obtain ⟨q, hq⟩ := h 0
  refine ⟨p - q, fun t => ?_⟩
  rw [← Motion.locate_sub_locate, ← hp, ← hq, Motion.locate_sub_locate]
  congr 1
  ext <;> simp

theorem origin : ∃ q, ∀ t, (f t).origin = (b t).locate q := by
  obtain ⟨q, hq⟩ := h 0
  refine ⟨q, fun t => ?_⟩
  rw [← hq]
  ext <;> simp [Motion.locate, Pose.place, Motion.origin]

theorem spin (hb : Rigid b) (hf : Rigid f) (t : ℝ) : (f t).spin = (b t).spin := by
  refine Vec3.eq_of_cross fun v => ?_
  -- any vector is a direction fixed in the follower, and so in the base
  obtain ⟨e, he⟩ := h.direct ((f t).pose.rotation.unrotate v)
  have hv : (f t).direct ((f t).pose.rotation.unrotate v) = v :=
    Rotation.rotate_unrotate (hf.unit t) v
  have hturn := hf.turn ((f t).pose.rotation.unrotate v) t
  rw [hv, funext he] at hturn
  have hbase := hb.turn e t
  rw [← he t, hv] at hbase
  exact hturn.unique hbase

theorem together (hb : Rigid b) (hf : Rigid f) (t : ℝ) : (b t).Together (f t) := by
  obtain ⟨q, hq⟩ := h.origin
  have hvelocity (τ : ℝ) : (f τ).velocity = (b τ).velocityAt ((b τ).locate q) := by
    have hrate := hf.origin τ
    rw [funext hq] at hrate
    exact hrate.unique (hb.locate q τ)
  have hacceleration := hf.velocity t
  rw [funext hvelocity] at hacceleration
  have hspinRate := hf.spin t
  rw [funext (h.spin hb hf)] at hspinRate
  exact
    { spin := h.spin hb hf t
      spinRate := hspinRate.unique (hb.spin t)
      velocity := by rw [hvelocity, hq]
      acceleration := by
        rw [hq]
        exact hacceleration.unique (hb.velocityAt_locate q t) }

end Joined

/-- The motion of a body that is mounted on another, its origin at a station. -/
def Motion.mount {α : Type} [Scalar α] (m : Motion α) (station : Vec3 α) : Motion α where
  pose := ⟨m.pose.rotation, m.locate station⟩
  velocity := m.velocityAt (m.locate station)
  spin := m.spin
  acceleration := m.accelerationAt (m.locate station)
  spinRate := m.spinRate

theorem Rigid.mount {m : ℝ → Motion ℝ} (hm : Rigid m) (station : Vec3 ℝ) :
    Rigid fun t => (m t).mount station where
  unit := hm.unit
  origin := hm.locate station
  velocity := hm.velocityAt_locate station
  turn := hm.turn
  spin := hm.spin

theorem Joined.mount (m : ℝ → Motion ℝ) (station : Vec3 ℝ) :
    Joined m fun t => (m t).mount station := by
  refine fun p => ⟨p + station, fun t => ?_⟩
  simp only [Motion.locate, Motion.mount, Pose.place, Rotation.rotate_add]
  ext <;> simp [add_assoc]

end Together

end OneSided
