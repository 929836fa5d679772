import OneSided.Proofs.Space.Exact

/-! Lengths of vectors and components along the axes of a rotation, in exact arithmetic. A turn
puts a vector together from its components along the turned axes, and the turn back reads
them off. Main statements: the components settle a vector and its length, and a product of
two vectors is at most that of their lengths. -/

namespace OneSided

/-! ### Lengths -/

/-- The length of a tangent vector. -/
def Vec2.norm {α : Type} [Scalar α] (a : Vec2 α) : α := Scalar.sqrt (a.x * a.x + a.y * a.y)

section Lengths

variable [Grain]

theorem Vec2.norm_sq (a : Vec2 ℝ) : a.norm ^ 2 = a.x ^ 2 + a.y ^ 2 := by
  rw [sq a.x, sq a.y]
  exact Real.sq_sqrt (add_nonneg (mul_self_nonneg a.x) (mul_self_nonneg a.y))

theorem Vec2.norm_nonneg (a : Vec2 ℝ) : 0 ≤ a.norm := Real.sqrt_nonneg _

namespace Vec3

variable (a b : Vec3 ℝ)

theorem dot_self_nonneg : 0 ≤ a.dot a :=
  add_nonneg (add_nonneg (mul_self_nonneg a.x) (mul_self_nonneg a.y)) (mul_self_nonneg a.z)

theorem norm_sq : a.norm ^ 2 = a.dot a := Real.sq_sqrt a.dot_self_nonneg

variable {a}

theorem eq_zero_of_dot_self (h : a.dot a ≤ 0) : a = 0 := by
  have hx := mul_self_nonneg a.x
  have hy := mul_self_nonneg a.y
  have hz := mul_self_nonneg a.z
  simp only [dot] at h
  ext
  · exact mul_self_eq_zero.1 (by linarith)
  · exact mul_self_eq_zero.1 (by linarith)
  · exact mul_self_eq_zero.1 (by linarith)

variable {b} in
theorem sub_eq_zero_iff : a - b = 0 ↔ a = b := by
  constructor
  · intro h
    ext
    · exact sub_eq_zero.1 (congrArg Vec3.x h)
    · exact sub_eq_zero.1 (congrArg Vec3.y h)
    · exact sub_eq_zero.1 (congrArg Vec3.z h)
  · rintro rfl
    ext <;> simp

theorem norm_le_iff {r : ℝ} (hr : 0 ≤ r) : a.norm ≤ r ↔ a.dot a ≤ r ^ 2 :=
  Real.sqrt_le_left hr

variable (a)

theorem zero_dot : dot 0 a = 0 := by simp [dot]

/-- The two products of vectors share the product of the lengths. -/
theorem dot_sq_add_cross : a.dot b ^ 2 + (a.cross b).dot (a.cross b) = a.dot a * b.dot b := by
  simp only [dot, cross_x, cross_y, cross_z]
  ring

theorem dot_sq_le : a.dot b ^ 2 ≤ a.dot a * b.dot b := by
  rw [← dot_sq_add_cross]
  exact le_add_of_nonneg_right (dot_self_nonneg _)

end Vec3

end Lengths

/-! ### Components along turned axes -/

section Components

variable [Grain]

namespace Rotation

variable (q : Rotation ℝ) (a b : Vec3 ℝ)

theorem rotate_eq_axes :
    q.rotate a =
      (q.rotate .ex).scale a.x + (q.rotate .ey).scale a.y + (q.rotate .ez).scale a.z := by
  have h : a = Vec3.ex.scale a.x + Vec3.ey.scale a.y + Vec3.ez.scale a.z := by
    ext <;> simp [Vec3.ex, Vec3.ey, Vec3.ez]
  conv_lhs => rw [h]
  simp only [rotate_add, rotate_scale]

theorem unrotate_eq_axes :
    q.unrotate a = ⟨(q.rotate .ex).dot a, (q.rotate .ey).dot a, (q.rotate .ez).dot a⟩ := by
  simp only [rotate_dot]
  ext <;> simp [Vec3.dot, Vec3.ex, Vec3.ey, Vec3.ez]

variable {q}

theorem dot_unrotate (hq : q.normSq = 1) : (q.unrotate a).dot (q.unrotate b) = a.dot b :=
  dot_rotate a b (q.normSq_conj.trans hq)

variable {a} in
theorem unrotate_eq_zero_iff (hq : q.normSq = 1) : q.unrotate a = 0 ↔ a = 0 := by
  constructor
  · intro h
    rw [← rotate_unrotate hq a, h, rotate_zero]
  · rintro rfl
    exact q.conj.rotate_zero

end Rotation

end Components

end OneSided
