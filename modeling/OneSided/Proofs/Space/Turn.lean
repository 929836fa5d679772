import OneSided.Proofs.Space.Axes

/-! Turns about an axis, and the shortest turn between two directions, in exact arithmetic.
The four numbers of a turn hold half its angle, so that what it does to vectors comes by the
formulas for the double angle. Main statements: a turn leaves what lies along its axis and
turns the rest by its angle; and the shortest turn takes one direction to the other wherever
the grain tells that they lie along different lines. -/

namespace OneSided

variable [Grain]

/-! ### Products of three vectors -/

namespace Vec3

variable (a b : Vec3 ℝ)

theorem scale_dot (k : ℝ) : (a.scale k).dot b = a.dot b * k := by
  simp only [dot, scale_x, scale_y, scale_z]
  ring

theorem scale_cross (k : ℝ) : (a.scale k).cross b = (a.cross b).scale k := by
  ext
  all_goals
    simp only [cross_x, cross_y, cross_z, scale_x, scale_y, scale_z]
    ring

theorem cross_dot_self : (a.cross b).dot a = 0 := by
  simp only [dot, cross_x, cross_y, cross_z]
  ring

theorem cross_self : a.cross a = 0 := by
  ext <;> simp [mul_comm]

theorem cross_cross_self : (a.cross b).cross a = b.scale (a.dot a) - a.scale (a.dot b) := by
  ext
  all_goals
    simp only [dot, cross_x, cross_y, cross_z, sub_x, sub_y, sub_z, scale_x, scale_y, scale_z]
    ring

/-- The square of the distance between the ends of two vectors. -/
theorem dot_sub_self : (a - b).dot (a - b) = a.dot a - 2 * a.dot b + b.dot b := by
  simp only [dot, sub_x, sub_y, sub_z]
  ring

theorem norm_nonneg : 0 ≤ a.norm := Real.sqrt_nonneg _

end Vec3

/-! ### Directions -/

namespace Vec3

variable {a b : Vec3 ℝ}

theorem shrink_eq (a : Vec3 ℝ) (k : ℝ) : a.shrink k = a.scale k⁻¹ := rfl

theorem normalized_of_unit (ha : a.dot a = 1) : a.normalized = a := by
  have hnorm : a.norm = 1 := by
    change Real.sqrt (a.dot a) = 1
    rw [ha, Real.sqrt_one]
  rw [normalized, hnorm]
  ext <;> simp [shrink_eq]

theorem normalized_unit (ha : 0 < a.norm) : a.normalized.dot a.normalized = 1 := by
  rw [normalized, shrink_eq, scale_dot, dot_comm, scale_dot, ← norm_sq]
  field_simp

theorem direction?_eq {least : ℝ} (h : 0 ≤ least) (a : Vec3 ℝ) :
    a.direction? least = if least < a.norm then some a.normalized else none := by
  have hlt : least * least < a.dot a ↔ least < a.norm := by
    rw [← sq]
    exact (Real.lt_sqrt h).symm
  simp only [direction?, hlt]

theorem direction?_of_unit (ha : a.dot a = 1) : a.direction? 0 = some a := by
  rw [direction?, ha, if_pos (by norm_num), normalized_of_unit ha]

end Vec3

/-! ### Turns about an axis -/

namespace Rotation

variable {axis : Vec3 ℝ}

theorem about_eq (axis : Vec3 ℝ) (angle : ℝ) :
    about axis angle = ofParts (Real.cos (angle / 2)) (axis.scale (Real.sin (angle / 2))) := by
  rw [about, show (1 + 1 : ℝ) = 2 from one_add_one_eq_two]
  rfl

theorem normSq_about (h : axis.dot axis = 1) (angle : ℝ) : (about axis angle).normSq = 1 := by
  have htrig := Real.sin_sq_add_cos_sq (angle / 2)
  simp only [Vec3.dot] at h
  simp only [about_eq, normSq, ofParts, Vec3.scale_x, Vec3.scale_y, Vec3.scale_z]
  linear_combination Real.sin (angle / 2) ^ 2 * h + htrig

/-- The component along the axis stays, and the rest turns by the angle. -/
theorem rotate_about (h : axis.dot axis = 1) (angle : ℝ) (v : Vec3 ℝ) :
    (about axis angle).rotate v =
      v.scale (Real.cos angle) + (axis.cross v).scale (Real.sin angle) +
        axis.scale ((1 - Real.cos angle) * axis.dot v) := by
  have hdouble : 2 * (angle / 2) = angle := by ring
  have hcos : Real.cos angle = 1 - 2 * Real.sin (angle / 2) ^ 2 := by
    rw [← Real.cos_sq_add_sin_sq (angle / 2), ← hdouble, Real.cos_two_mul', hdouble]
    ring
  have hsin : Real.sin angle = 2 * Real.sin (angle / 2) * Real.cos (angle / 2) := by
    rw [← Real.sin_two_mul, hdouble]
  simp only [Vec3.dot] at h
  rw [hcos, hsin]
  ext
  all_goals
    simp only [about_eq, rotate, vector, ofParts, Vec3.dot, Vec3.add_x, Vec3.add_y, Vec3.add_z,
      Vec3.cross_x, Vec3.cross_y, Vec3.cross_z, Vec3.scale_x, Vec3.scale_y, Vec3.scale_z]
  · linear_combination -(2 * Real.sin (angle / 2) ^ 2 * v.x) * h
  · linear_combination -(2 * Real.sin (angle / 2) ^ 2 * v.y) * h
  · linear_combination -(2 * Real.sin (angle / 2) ^ 2 * v.z) * h

end Rotation

/-! ### The shortest turn between two directions -/

section Between

variable {a b : Vec3 ℝ} (ha : a.dot a = 1) (hb : b.dot b = 1)
include ha hb

theorem Vec3.dot_sq_add_norm_sq : a.dot b ^ 2 + (a.cross b).norm ^ 2 = 1 := by
  rw [norm_sq, dot_sq_add_cross, ha, hb, one_mul]

theorem Vec3.abs_dot_le_one : |a.dot b| ≤ 1 := by
  rw [← sq_le_one_iff_abs_le_one, ← dot_sq_add_norm_sq ha hb]
  exact le_add_of_nonneg_right (sq_nonneg _)

/-- Two directions along different lines are neither the same nor opposite. -/
theorem Vec3.abs_dot_lt_one (h : 0 < (a.cross b).norm) : |a.dot b| < 1 := by
  rw [← sq_lt_one_iff_abs_lt_one, ← dot_sq_add_norm_sq ha hb]
  exact lt_add_of_pos_right _ (pow_pos h 2)

/-- Directions less than a right angle apart are hardly further apart than their product tells. -/
theorem Vec3.dot_sub_self_le (h : 0 ≤ a.dot b) :
    (a - b).dot (a - b) ≤ 2 * (a.cross b).norm ^ 2 := by
  have hmost : a.dot b ≤ 1 := (abs_le.1 (abs_dot_le_one ha hb)).2
  have hnorm : (a.cross b).norm ^ 2 = (1 - a.dot b) * (1 + a.dot b) := by
    linear_combination dot_sq_add_norm_sq ha hb
  calc (a - b).dot (a - b) = 2 * ((1 - a.dot b) * 1) := by
        rw [dot_sub_self, ha, hb]
        ring
    _ ≤ 2 * ((1 - a.dot b) * (1 + a.dot b)) := by
        gcongr
        linarith
    _ = 2 * (a.cross b).norm ^ 2 := by rw [hnorm]

namespace Rotation

/-- There is a turn about the product of the two directions wherever the grain tells that they
lie along different lines. Otherwise there is the trivial one for directions that agree, and
none for opposite ones. -/
theorem between_eq (hgrain : 0 ≤ Grain.epsilon) :
    between a b =
      if Grain.epsilon < (a.cross b).norm then
        some (about (a.cross b).normalized (Real.arccos (a.dot b)))
      else if a.dot b < 0 then none
      else some Rotation.id := by
  have hepsilon : (Scalar.epsilon : ℝ) = Grain.epsilon := rfl
  simp only [between, betweenUnits, Vec3.direction?_of_unit ha, Vec3.direction?_of_unit hb,
    hepsilon, Vec3.direction?_eq hgrain]
  by_cases hcross : Grain.epsilon < (a.cross b).norm
  · obtain ⟨hleast, hmost⟩ := abs_lt.1 (Vec3.abs_dot_lt_one ha hb (hgrain.trans_lt hcross))
    simp only [if_pos hcross, if_neg (not_le.2 hleast), if_neg (not_le.2 hmost)]
    rfl
  · simp only [if_neg hcross]

theorem rotate_about_cross (h : 0 < (a.cross b).norm) :
    (about (a.cross b).normalized (Real.arccos (a.dot b))).rotate a = b := by
  obtain ⟨hleast, hmost⟩ := abs_le.1 (Vec3.abs_dot_le_one ha hb)
  have hcos : Real.cos (Real.arccos (a.dot b)) = a.dot b := Real.cos_arccos hleast hmost
  have hsin : Real.sin (Real.arccos (a.dot b)) = (a.cross b).norm := by
    rw [Real.sin_arccos, ← Vec3.dot_sq_add_norm_sq ha hb, add_sub_cancel_left,
      Real.sqrt_sq h.le]
  have haxis : (a.cross b).normalized.dot a = 0 := by
    rw [Vec3.normalized, Vec3.shrink_eq, Vec3.scale_dot, Vec3.cross_dot_self, zero_mul]
  have hcross : (a.cross b).normalized.cross a =
      (b.scale 1 - a.scale (a.dot b)).scale (a.cross b).norm⁻¹ := by
    rw [Vec3.normalized, Vec3.shrink_eq, Vec3.scale_cross, Vec3.cross_cross_self, ha]
  rw [rotate_about (Vec3.normalized_unit h), hcos, hsin, haxis, hcross]
  ext <;> simp [h.ne']

end Rotation

end Between

end OneSided
