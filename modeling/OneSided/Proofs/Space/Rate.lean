import OneSided.Proofs.Space.Exact

/-! Rates of vectors in exact arithmetic, and bodies whose motions change in time as they
say they do. Main statement: over such a body the measures of a motion are the rates they
are named for, also for a point that slides over the body. -/

namespace OneSided

/-! ### Rates of vectors -/

/-- `r` is the rate of `v` at `t`, component by component. -/
structure Vec3.HasRate (v : ℝ → Vec3 ℝ) (r : Vec3 ℝ) (t : ℝ) : Prop where
  x : HasDerivAt (fun τ => (v τ).x) r.x t
  y : HasDerivAt (fun τ => (v τ).y) r.y t
  z : HasDerivAt (fun τ => (v τ).z) r.z t

namespace Vec3

variable {a b : ℝ → Vec3 ℝ} {a' b' : Vec3 ℝ} {t : ℝ}

namespace HasRate

theorem congr_rate (ha : HasRate a a' t) (h : a' = b') : HasRate a b' t := h ▸ ha

theorem unique (ha : HasRate a a' t) (hb : HasRate a b' t) : a' = b' :=
  Vec3.ext (ha.x.unique hb.x) (ha.y.unique hb.y) (ha.z.unique hb.z)

variable [Grain]

theorem add (ha : HasRate a a' t) (hb : HasRate b b' t) :
    HasRate (fun τ => a τ + b τ) (a' + b') t :=
  ⟨ha.x.add hb.x, ha.y.add hb.y, ha.z.add hb.z⟩

theorem sub (ha : HasRate a a' t) (hb : HasRate b b' t) :
    HasRate (fun τ => a τ - b τ) (a' - b') t :=
  ⟨ha.x.sub hb.x, ha.y.sub hb.y, ha.z.sub hb.z⟩

theorem scale (ha : HasRate a a' t) (k : ℝ) :
    HasRate (fun τ => (a τ).scale k) (a'.scale k) t :=
  ⟨ha.x.mul_const k, ha.y.mul_const k, ha.z.mul_const k⟩

/-- The order of the factors matters, as each may turn. -/
theorem cross (ha : HasRate a a' t) (hb : HasRate b b' t) :
    HasRate (fun τ => (a τ).cross (b τ)) (a'.cross (b t) + (a t).cross b') t where
  x := ((ha.y.mul hb.z).sub (ha.z.mul hb.y)).congr_deriv (by simp; ring)
  y := ((ha.z.mul hb.x).sub (ha.x.mul hb.z)).congr_deriv (by simp; ring)
  z := ((ha.x.mul hb.y).sub (ha.y.mul hb.x)).congr_deriv (by simp; ring)

theorem dot (ha : HasRate a a' t) (hb : HasRate b b' t) :
    HasDerivAt (fun τ => (a τ).dot (b τ)) (a'.dot (b t) + (a t).dot b') t := by
  have h := ((ha.x.mul hb.x).add (ha.y.mul hb.y)).add (ha.z.mul hb.z)
  refine h.congr_deriv ?_
  simp only [Vec3.dot]
  ring

end HasRate

end Vec3

/-- `r` is the rate of `v` at `t`, along both axes of a tangent plane. -/
structure Vec2.HasRate (v : ℝ → Vec2 ℝ) (r : Vec2 ℝ) (t : ℝ) : Prop where
  x : HasDerivAt (fun τ => (v τ).x) r.x t
  y : HasDerivAt (fun τ => (v τ).y) r.y t

attribute [ext] Vec2

namespace Vec2

variable {d v : ℝ → Vec2 ℝ}

/-- What has no rate for a while is the same at its end. -/
theorem eq_of_hasRate_zero (hd : ∀ t, HasRate d (v t) t) {t₀ t₁ : ℝ} (ht : t₀ ≤ t₁)
    (hv : ∀ t ∈ Set.Icc t₀ t₁, v t = ⟨0, 0⟩) : d t₁ = d t₀ := by
  have hconst {f f' : ℝ → ℝ} (hf : ∀ t, HasDerivAt f (f' t) t)
      (hzero : ∀ t ∈ Set.Icc t₀ t₁, f' t = 0) : f t₁ = f t₀ := by
    refine constant_of_has_deriv_right_zero
      (fun t _ => (hf t).continuousAt.continuousWithinAt) (fun t h => ?_) t₁
      (Set.right_mem_Icc.2 ht)
    exact (hzero t (Set.Ico_subset_Icc_self h) ▸ hf t).hasDerivWithinAt
  ext
  · exact hconst (fun t => (hd t).x) fun t h => congrArg Vec2.x (hv t h)
  · exact hconst (fun t => (hd t).y) fun t h => congrArg Vec2.y (hv t h)

end Vec2

/-! ### Bodies in motion -/

section Bodies

variable [Grain]

/-- A rigid body whose motion is `m t` at the time `t`. The pose is a turn by a unit
quaternion; directions fixed in the body turn with the spin, and the other parts of the
motion are the rates that they stand for. -/
structure Rigid (m : ℝ → Motion ℝ) : Prop where
  unit : ∀ t, (m t).pose.rotation.normSq = 1
  origin : ∀ t, Vec3.HasRate (fun τ => (m τ).origin) (m t).velocity t
  velocity : ∀ t, Vec3.HasRate (fun τ => (m τ).velocity) (m t).acceleration t
  turn : ∀ d t, Vec3.HasRate (fun τ => (m τ).direct d) ((m t).spin.cross ((m t).direct d)) t
  spin : ∀ t, Vec3.HasRate (fun τ => (m τ).spin) (m t).spinRate t

/-- A rigid body whose pose is `(m t).pose` at the time `t`. Its velocity and its spin are the
rates of the pose; they need not have rates themselves. -/
structure RigidPath (m : ℝ → Motion ℝ) : Prop where
  unit : ∀ t, (m t).pose.rotation.normSq = 1
  origin : ∀ t, Vec3.HasRate (fun τ => (m τ).origin) (m t).velocity t
  turn : ∀ d t, Vec3.HasRate (fun τ => (m τ).direct d) ((m t).spin.cross ((m t).direct d)) t

theorem Rigid.path {m : ℝ → Motion ℝ} (hm : Rigid m) : RigidPath m := ⟨hm.unit, hm.origin, hm.turn⟩

namespace Motion

theorem locate_sub_origin (m : Motion ℝ) (p : Vec3 ℝ) : m.locate p - m.origin = m.direct p := by
  ext <;> simp [locate, Pose.place, origin, direct]

/-- A material point passes itself with the velocity it has. -/
theorem velocityRateAlong_velocityAt (m : Motion ℝ) (p : Vec3 ℝ) :
    m.velocityRateAlong p (m.velocityAt p) = m.accelerationAt p := by
  ext <;> simp [velocityRateAlong, velocityAt, accelerationAt]

end Motion

theorem RigidPath.locate {m : ℝ → Motion ℝ} (hm : RigidPath m) (p : Vec3 ℝ) (t : ℝ) :
    Vec3.HasRate (fun τ => (m τ).locate p) ((m t).velocityAt ((m t).locate p)) t := by
  have h := (hm.turn p t).add (hm.origin t)
  refine h.congr_rate ?_
  rw [Motion.velocityAt, Motion.locate_sub_origin]
  ext <;> simp [add_comm]

namespace Rigid

variable {m : ℝ → Motion ℝ} {t : ℝ}

theorem locate (hm : Rigid m) (p : Vec3 ℝ) (t : ℝ) :
    Vec3.HasRate (fun τ => (m τ).locate p) ((m t).velocityAt ((m t).locate p)) t :=
  hm.path.locate p t

/-- The velocity of the body at a point that need not be fixed in it. -/
theorem velocityAt (hm : Rigid m) {p : ℝ → Vec3 ℝ} {v : Vec3 ℝ} (hp : Vec3.HasRate p v t) :
    Vec3.HasRate (fun τ => (m τ).velocityAt (p τ)) ((m t).velocityRateAlong (p t) v) t := by
  have h := (hm.velocity t).add ((hm.spin t).cross (hp.sub (hm.origin t)))
  refine h.congr_rate ?_
  ext <;> simp [Motion.velocityRateAlong, add_assoc]

/-- The velocity of a material point. -/
theorem velocityAt_locate (hm : Rigid m) (p : Vec3 ℝ) (t : ℝ) :
    Vec3.HasRate (fun τ => (m τ).velocityAt ((m τ).locate p))
      ((m t).accelerationAt ((m t).locate p)) t := by
  have h := hm.velocityAt (hm.locate p t)
  rwa [Motion.velocityRateAlong_velocityAt] at h

theorem directionRate (hm : Rigid m) (d : Vec3 ℝ) (t : ℝ) :
    Vec3.HasRate (fun τ => (m τ).directionRate ((m τ).direct d))
      ((m t).directionSecondRate ((m t).direct d)) t :=
  (hm.spin t).cross (hm.turn d t)

end Rigid

end Bodies

/-! ### A turntable -/

/-- A body that spins up about the third axis while it is drawn along the first one. -/
noncomputable def Motion.turntable (turn draw t : ℝ) : Motion ℝ where
  pose := ⟨⟨0, 0, Real.sin (turn * t ^ 2), Real.cos (turn * t ^ 2)⟩, ⟨draw * t ^ 2, 0, 0⟩⟩
  velocity := ⟨2 * draw * t, 0, 0⟩
  spin := ⟨0, 0, 4 * turn * t⟩
  acceleration := ⟨2 * draw, 0, 0⟩
  spinRate := ⟨0, 0, 4 * turn⟩

theorem hasDerivAt_square (k t : ℝ) : HasDerivAt (fun τ => k * τ ^ 2) (2 * k * t) t := by
  have h := (hasDerivAt_pow 2 t).const_mul k
  refine h.congr_deriv ?_
  push_cast
  ring

variable [Grain]

/-- The quaternion turns by twice the angle that it is written with. -/
theorem Motion.direct_turntable (turn draw t : ℝ) (d : Vec3 ℝ) :
    (turntable turn draw t).direct d =
      ⟨d.x * Real.cos (2 * turn * t ^ 2) - d.y * Real.sin (2 * turn * t ^ 2),
        d.x * Real.sin (2 * turn * t ^ 2) + d.y * Real.cos (2 * turn * t ^ 2), d.z⟩ := by
  have h := Real.sin_sq_add_cos_sq (turn * t ^ 2)
  have hs := Real.sin_two_mul (turn * t ^ 2)
  have hc := Real.cos_two_mul (turn * t ^ 2)
  rw [mul_assoc, hs, hc]
  ext
  all_goals
    simp only [direct, turntable, Rotation.rotate, Rotation.vector, Vec3.add_x, Vec3.add_y,
      Vec3.add_z, Vec3.cross_x, Vec3.cross_y, Vec3.cross_z, Vec3.scale_x, Vec3.scale_y,
      Vec3.scale_z]
  · linear_combination -2 * d.x * h
  · linear_combination -2 * d.y * h
  · ring

theorem rigid_turntable (turn draw : ℝ) : Rigid (Motion.turntable turn draw) where
  unit t := by
    have h := Real.sin_sq_add_cos_sq (turn * t ^ 2)
    simp only [Motion.turntable, Rotation.normSq]
    linear_combination h
  origin t := ⟨hasDerivAt_square draw t, hasDerivAt_const t 0, hasDerivAt_const t 0⟩
  velocity t := by
    have h := (hasDerivAt_id t).const_mul (2 * draw)
    exact ⟨h.congr_deriv (mul_one _), hasDerivAt_const t 0, hasDerivAt_const t 0⟩
  turn d t := by
    have hs := (hasDerivAt_square (2 * turn) t).sin
    have hc := (hasDerivAt_square (2 * turn) t).cos
    simp only [Motion.direct_turntable]
    refine ⟨?_, ?_, ?_⟩
    · refine ((hc.const_mul d.x).sub (hs.const_mul d.y)).congr_deriv ?_
      simp [Motion.turntable]
      ring
    · refine ((hs.const_mul d.x).add (hc.const_mul d.y)).congr_deriv ?_
      simp [Motion.turntable]
      ring
    · refine (hasDerivAt_const t d.z).congr_deriv ?_
      simp [Motion.turntable]
  spin t := by
    have h := (hasDerivAt_id t).const_mul (4 * turn)
    exact ⟨hasDerivAt_const t 0, hasDerivAt_const t 0, h.congr_deriv (mul_one _)⟩

end OneSided
