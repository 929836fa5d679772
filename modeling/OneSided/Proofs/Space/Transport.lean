import OneSided.Proofs.Space.Rate
import OneSided.Proofs.Space.Turn

/-! Velocities and accelerations at different points of one body, in exact arithmetic. Main
statement: what holds at one point settles what holds at all others, and the velocity of the
body along a point that slides over it changes as that of a material point does, unless the
point slides across the axis of the spin. -/

namespace OneSided

variable [Grain]

/-! ### Parallel vectors -/

namespace Vec3

/-- Both vectors lie along one line. One that vanishes lies along every line. -/
def Parallel (a b : Vec3 ℝ) : Prop := ∃ k l : ℝ, (k ≠ 0 ∨ l ≠ 0) ∧ a.scale k = b.scale l

variable {a b : Vec3 ℝ}

theorem scale_eq_zero {k : ℝ} (hk : k ≠ 0) (h : a.scale k = 0) : a = 0 := by
  ext
  · exact (mul_eq_zero.1 (congrArg Vec3.x h)).resolve_right hk
  · exact (mul_eq_zero.1 (congrArg Vec3.y h)).resolve_right hk
  · exact (mul_eq_zero.1 (congrArg Vec3.z h)).resolve_right hk

theorem cross_scale (a b : Vec3 ℝ) (k : ℝ) : a.cross (b.scale k) = (a.cross b).scale k := by
  ext
  all_goals
    simp only [cross_x, cross_y, cross_z, scale_x, scale_y, scale_z]
    ring

/-- Vectors are parallel exactly if they span no area. -/
theorem cross_eq_zero_iff : a.cross b = 0 ↔ a.Parallel b := by
  constructor
  · intro h
    by_cases ha : a.dot a = 0
    · refine ⟨1, 0, .inl one_ne_zero, ?_⟩
      rw [eq_zero_of_dot_self ha.le]
      ext <;> simp
    · -- the area seen from `a` is what of `b` lies across `a`
      have hzero : b.scale (a.dot a) - a.scale (a.dot b) = 0 := by
        rw [← cross_cross_self, h]
        ext <;> simp
      exact ⟨a.dot b, a.dot a, .inr ha, (sub_eq_zero_iff.1 hzero).symm⟩
  · rintro ⟨k, l, hk | hl, h⟩
    · refine scale_eq_zero hk ?_
      rw [← scale_cross, h, scale_cross, cross_self]
      ext <;> simp
    · refine scale_eq_zero hl ?_
      rw [← cross_scale, ← h, cross_scale, cross_self]
      ext <;> simp

end Vec3

/-! ### From one point to another -/

namespace Motion

variable (m : Motion ℝ) (p q v : Vec3 ℝ)

theorem velocityAt_eq_add : m.velocityAt q = m.velocityAt p + m.directionRate (q - p) := by
  ext
  all_goals
    simp only [velocityAt, directionRate, Vec3.add_x, Vec3.add_y, Vec3.add_z, Vec3.sub_x,
      Vec3.sub_y, Vec3.sub_z, Vec3.cross_x, Vec3.cross_y, Vec3.cross_z]
    ring

theorem accelerationAt_eq_add :
    m.accelerationAt q = m.accelerationAt p + m.directionSecondRate (q - p) := by
  ext
  all_goals
    simp only [accelerationAt, directionSecondRate, Vec3.add_x, Vec3.add_y, Vec3.add_z,
      Vec3.sub_x, Vec3.sub_y, Vec3.sub_z, Vec3.cross_x, Vec3.cross_y, Vec3.cross_z]
    ring

/-- A point that does not move with the body passes over material points that turn about the
spin; only how fast it does so makes a difference to the material point. -/
theorem velocityRateAlong_eq_add :
    m.velocityRateAlong p v = m.accelerationAt p + m.directionRate (v - m.velocityAt p) := by
  ext
  all_goals
    simp only [velocityRateAlong, accelerationAt, velocityAt, directionRate, Vec3.add_x,
      Vec3.add_y, Vec3.add_z, Vec3.sub_x, Vec3.sub_y, Vec3.sub_z, Vec3.cross_x, Vec3.cross_y,
      Vec3.cross_z]
    ring

theorem velocityRateAlong_eq_accelerationAt_iff :
    m.velocityRateAlong p v = m.accelerationAt p ↔ m.spin.Parallel (v - m.velocityAt p) := by
  have hcancel : ∀ a b : Vec3 ℝ, a + b = a ↔ b = 0 := fun a b => by
    simp [Vec3.ext_iff]
  rw [velocityRateAlong_eq_add, hcancel, directionRate, Vec3.cross_eq_zero_iff]

end Motion

/-- For every motion of a body, all points `p` and `q` and every velocity `v`: the velocity and
the acceleration at `q` are those at `p` and what the spin makes of the way from `p` to `q`;
and the velocity of the body along a point that passes `p` with velocity `v` changes at the
rate of the acceleration at `p`, and what the spin makes of the velocity at which the point
slides over the body. So the rate is that acceleration exactly if the point slides along the
axis of the spin, and for a material point it always is. -/
theorem fields_transported (m : Motion ℝ) (p q v : Vec3 ℝ) :
    m.velocityAt q = m.velocityAt p + m.spin.cross (q - p) ∧
    m.accelerationAt q = m.accelerationAt p + m.directionSecondRate (q - p) ∧
    m.velocityRateAlong p v = m.accelerationAt p + m.spin.cross (v - m.velocityAt p) ∧
    (m.velocityRateAlong p v = m.accelerationAt p ↔ m.spin.Parallel (v - m.velocityAt p)) ∧
    m.velocityRateAlong p (m.velocityAt p) = m.accelerationAt p :=
  ⟨m.velocityAt_eq_add p q, m.accelerationAt_eq_add p q, m.velocityRateAlong_eq_add p v,
    m.velocityRateAlong_eq_accelerationAt_iff p v, m.velocityRateAlong_velocityAt p⟩

end OneSided
