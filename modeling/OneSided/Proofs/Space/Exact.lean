import Mathlib
import OneSided.Space.Motion

/-! Exact arithmetic: the real numbers as scalars, with any number for the grain that
small lengths are compared with. Vectors and rotations then obey the usual laws. Main
statements: the product of unit quaternions turns by one rotation after the other, and a
turn by a unit quaternion keeps the products of vectors. -/

namespace OneSided

/-- What exact arithmetic takes for the distance from one to the next larger scalar. -/
class Grain where
  epsilon : ℝ

noncomputable instance [Grain] : Scalar ℝ where
  decidableLT := Real.decidableLT
  decidableLE := Real.decidableLE
  ofInt n := n
  isFinite _ := true
  abs x := |x|
  sqrt := Real.sqrt
  sin := Real.sin
  cos := Real.cos
  acos := Real.arccos
  pi := Real.pi
  epsilon := Grain.epsilon

/-! ### Components -/

attribute [ext] Vec3 Rotation

namespace Vec3

variable {α : Type} [Scalar α] (a b : Vec3 α) (k : α)

@[simp] theorem zero_x : (0 : Vec3 α).x = 0 := rfl
@[simp] theorem zero_y : (0 : Vec3 α).y = 0 := rfl
@[simp] theorem zero_z : (0 : Vec3 α).z = 0 := rfl
@[simp] theorem cross_x : (a.cross b).x = a.y * b.z - a.z * b.y := rfl
@[simp] theorem cross_y : (a.cross b).y = a.z * b.x - a.x * b.z := rfl
@[simp] theorem cross_z : (a.cross b).z = a.x * b.y - a.y * b.x := rfl
@[simp] theorem scale_x : (a.scale k).x = a.x * k := rfl
@[simp] theorem scale_y : (a.scale k).y = a.y * k := rfl
@[simp] theorem scale_z : (a.scale k).z = a.z * k := rfl

end Vec3

/-! ### Rotations -/

section Rotations

variable [Grain]

theorem Vec3.dot_comm (a b : Vec3 ℝ) : a.dot b = b.dot a := by
  simp only [dot]
  ring

namespace Rotation

@[simp] theorem mul_i (q r : Rotation ℝ) :
    (q * r).i = q.w * r.i + q.i * r.w + q.j * r.k - q.k * r.j := rfl
@[simp] theorem mul_j (q r : Rotation ℝ) :
    (q * r).j = q.w * r.j - q.i * r.k + q.j * r.w + q.k * r.i := rfl
@[simp] theorem mul_k (q r : Rotation ℝ) :
    (q * r).k = q.w * r.k + q.i * r.j - q.j * r.i + q.k * r.w := rfl
@[simp] theorem mul_w (q r : Rotation ℝ) :
    (q * r).w = q.w * r.w - q.i * r.i - q.j * r.j - q.k * r.k := rfl

/-- The formula for a turn takes a norm of one for granted. Without it, the turn by a
product misses the turn by one factor after the other by this much. -/
theorem rotate_mul_add (q r : Rotation ℝ) (v : Vec3 ℝ) :
    (q * r).rotate v = q.rotate (r.rotate v) +
      ((r.rotate v - v.scale r.normSq).scale (q.normSq - 1) +
        (q.rotate v + v.scale (q.normSq - 2)).scale (r.normSq - 1)) := by
  ext
  all_goals
    simp only [rotate, vector, normSq, Vec3.add_x, Vec3.add_y, Vec3.add_z, Vec3.sub_x, Vec3.sub_y,
      Vec3.sub_z, Vec3.cross_x, Vec3.cross_y, Vec3.cross_z, Vec3.scale_x, Vec3.scale_y,
      Vec3.scale_z, mul_i, mul_j, mul_k, mul_w]
    ring

theorem rotate_mul {q r : Rotation ℝ} (hq : q.normSq = 1) (hr : r.normSq = 1) (v : Vec3 ℝ) :
    (q * r).rotate v = q.rotate (r.rotate v) := by
  rw [rotate_mul_add, hq, hr]
  ext <;> simp

theorem mul_assoc (p q r : Rotation ℝ) : p * q * r = p * (q * r) := by
  ext
  all_goals
    simp only [mul_i, mul_j, mul_k, mul_w]
    ring

theorem normSq_mul (q r : Rotation ℝ) : (q * r).normSq = q.normSq * r.normSq := by
  simp only [normSq, mul_i, mul_j, mul_k, mul_w]
  ring

/-! ### Turning back -/

theorem normSq_conj (q : Rotation ℝ) : q.conj.normSq = q.normSq := by
  simp [normSq, conj]

theorem conj_conj (q : Rotation ℝ) : q.conj.conj = q := by
  simp [conj]

theorem conj_mul (q r : Rotation ℝ) : (q * r).conj = r.conj * q.conj := by
  ext
  all_goals
    simp only [conj, mul_i, mul_j, mul_k, mul_w]
    ring

theorem conj_mul_self {q : Rotation ℝ} (hq : q.normSq = 1) : q.conj * q = .id := by
  simp only [normSq] at hq
  ext
  all_goals simp only [conj, Rotation.id, mul_i, mul_j, mul_k, mul_w]
  · ring
  · ring
  · ring
  · linear_combination hq

@[simp] theorem id_rotate (v : Vec3 ℝ) : Rotation.id.rotate v = v := by
  ext <;> simp [Rotation.id, rotate, vector]

theorem unrotate_rotate {q : Rotation ℝ} (hq : q.normSq = 1) (v : Vec3 ℝ) :
    q.unrotate (q.rotate v) = v := by
  rw [unrotate, ← rotate_mul (q.normSq_conj.trans hq) hq, conj_mul_self hq, id_rotate]

theorem rotate_unrotate {q : Rotation ℝ} (hq : q.normSq = 1) (v : Vec3 ℝ) :
    q.rotate (q.unrotate v) = v := by
  have h := unrotate_rotate (q.normSq_conj.trans hq) v
  rwa [unrotate, conj_conj] at h

theorem unrotate_mul {q r : Rotation ℝ} (hq : q.normSq = 1) (hr : r.normSq = 1) (v : Vec3 ℝ) :
    (q * r).unrotate v = r.unrotate (q.unrotate v) := by
  rw [unrotate, conj_mul, rotate_mul (r.normSq_conj.trans hr) (q.normSq_conj.trans hq)]
  rfl

/-! ### Turned vectors -/

section Turned

variable (q : Rotation ℝ) (a b : Vec3 ℝ)

theorem rotate_add : q.rotate (a + b) = q.rotate a + q.rotate b := by
  ext
  all_goals
    simp only [rotate, vector, Vec3.add_x, Vec3.add_y, Vec3.add_z, Vec3.cross_x, Vec3.cross_y,
      Vec3.cross_z, Vec3.scale_x, Vec3.scale_y, Vec3.scale_z]
    ring

theorem rotate_scale (k : ℝ) : q.rotate (a.scale k) = (q.rotate a).scale k := by
  ext
  all_goals
    simp only [rotate, vector, Vec3.add_x, Vec3.add_y, Vec3.add_z, Vec3.cross_x, Vec3.cross_y,
      Vec3.cross_z, Vec3.scale_x, Vec3.scale_y, Vec3.scale_z]
    ring

theorem rotate_sub : q.rotate (a - b) = q.rotate a - q.rotate b := by
  have h : a - b = a + b.scale (-1) := by
    ext <;> simp [sub_eq_add_neg]
  rw [h, rotate_add, rotate_scale]
  ext <;> simp [sub_eq_add_neg]

@[simp] theorem rotate_zero : q.rotate 0 = 0 := by
  ext <;> simp [rotate]

/-- On the other side of a product a turn is the turn back. -/
theorem rotate_dot : (q.rotate a).dot b = a.dot (q.unrotate b) := by
  simp only [unrotate, conj, rotate, vector, Vec3.dot, Vec3.add_x, Vec3.add_y, Vec3.add_z,
    Vec3.cross_x, Vec3.cross_y, Vec3.cross_z, Vec3.scale_x, Vec3.scale_y, Vec3.scale_z]
  ring

/-- Without a norm of one, the product of two turned vectors misses the turned product by
this much. -/
theorem cross_rotate_add :
    (q.rotate a).cross (q.rotate b) = q.rotate (a.cross b) +
      (q.vector.scale (4 * q.vector.dot (a.cross b))).scale (q.normSq - 1) := by
  ext
  all_goals
    simp only [rotate, vector, normSq, Vec3.dot, Vec3.add_x, Vec3.add_y, Vec3.add_z,
      Vec3.cross_x, Vec3.cross_y, Vec3.cross_z, Vec3.scale_x, Vec3.scale_y, Vec3.scale_z]
    ring

variable {q}

theorem dot_rotate (hq : q.normSq = 1) : (q.rotate a).dot (q.rotate b) = a.dot b := by
  rw [rotate_dot, unrotate_rotate hq]

theorem cross_rotate (hq : q.normSq = 1) :
    (q.rotate a).cross (q.rotate b) = q.rotate (a.cross b) := by
  rw [cross_rotate_add, hq]
  ext <;> simp

end Turned

end Rotation

end Rotations

end OneSided
