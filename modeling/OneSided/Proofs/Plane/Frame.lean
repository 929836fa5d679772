import OneSided.Proofs.Plane.Components
import OneSided.Proofs.Space.Turn

/-! The frame that a half space is given for its normal, in exact arithmetic. It is the shortest
turn from the third axis to the normal, where the grain lets that turn be told, no turn where
the two agree, and a half turn where they are opposite. Main statement: for every normal this
is a rotation whose third axis is the normal, up to the grain, and never its opposite. -/

namespace OneSided

/-- Three directions across one another, in the order of the coordinate axes. -/
structure Vec3.RightHanded {α : Type} [Scalar α] (x y z : Vec3 α) : Prop where
  x_unit : x.dot x = 1
  y_unit : y.dot y = 1
  z_unit : z.dot z = 1
  xy : x.dot y = 0
  yz : y.dot z = 0
  zx : z.dot x = 0
  cross : x.cross y = z

section Exact

variable [Grain]

namespace Vec3

theorem rightHanded_axes : RightHanded (ex : Vec3 ℝ) ey ez := by
  constructor
  case cross => ext <;> simp [ex, ey, ez]
  all_goals simp [dot, ex, ey, ez]

theorem RightHanded.rotate {x y z : Vec3 ℝ} (h : RightHanded x y z) {q : Rotation ℝ}
    (hq : q.normSq = 1) : RightHanded (q.rotate x) (q.rotate y) (q.rotate z) where
  x_unit := (Rotation.dot_rotate x x hq).trans h.x_unit
  y_unit := (Rotation.dot_rotate y y hq).trans h.y_unit
  z_unit := (Rotation.dot_rotate z z hq).trans h.z_unit
  xy := (Rotation.dot_rotate x y hq).trans h.xy
  yz := (Rotation.dot_rotate y z hq).trans h.yz
  zx := (Rotation.dot_rotate z x hq).trans h.zx
  cross := by rw [Rotation.cross_rotate x y hq, h.cross]

theorem ez_dot (n : Vec3 ℝ) : ez.dot n = n.z := by simp [dot, ez]

end Vec3

namespace HalfSpace

/-! ### The three ways to a frame -/

/-- Half a turn about the first axis. -/
theorem halfTurn_rotate_ez :
    (Rotation.about Vec3.ex Real.pi).rotate .ez = Vec3.ez.scale (-1) := by
  rw [Rotation.rotate_about Vec3.rightHanded_axes.x_unit, Real.cos_pi, Real.sin_pi]
  ext <;> simp [Vec3.dot, Vec3.ex, Vec3.ez]

theorem make_eq (n : Vec3 ℝ) (height : ℝ) :
    make n height =
      .ok ⟨(Rotation.between .ez n).getD (.about .ex Real.pi), height⟩ := rfl

/-- Every normal has its frame. -/
theorem make_cases (hgrain : 0 ≤ Grain.epsilon) {n : Vec3 ℝ} (hn : n.dot n = 1) (height : ℝ) :
    ∃ p : HalfSpace ℝ, make n height = .ok p ∧ p.height = height ∧ p.frame.normSq = 1 ∧
      (Grain.epsilon < (Vec3.ez.cross n).norm ∧ p.normal = n ∨
        (Vec3.ez.cross n).norm ≤ Grain.epsilon ∧
          (0 ≤ n.z ∧ p.normal = .ez ∨ n.z < 0 ∧ p.normal = Vec3.ez.scale (-1))) := by
  have haxes := Vec3.rightHanded_axes
  refine ⟨_, make_eq n height, rfl, ?_⟩
  rw [Rotation.between_eq haxes.z_unit hn hgrain, Vec3.ez_dot]
  by_cases hcross : Grain.epsilon < (Vec3.ez.cross n).norm
  · have hpos := hgrain.trans_lt hcross
    rw [if_pos hcross, ← Vec3.ez_dot]
    exact ⟨Rotation.normSq_about (Vec3.normalized_unit hpos) _,
      .inl ⟨hcross, Rotation.rotate_about_cross haxes.z_unit hn hpos⟩⟩
  · rw [if_neg hcross]
    by_cases hz : n.z < 0
    · rw [if_pos hz]
      exact ⟨Rotation.normSq_about haxes.x_unit _,
        .inr ⟨not_lt.1 hcross, .inr ⟨hz, halfTurn_rotate_ez⟩⟩⟩
    · rw [if_neg hz]
      exact ⟨by simp [Rotation.id, Rotation.normSq],
        .inr ⟨not_lt.1 hcross, .inl ⟨not_lt.1 hz, Rotation.id_rotate _⟩⟩⟩

/-! ### How far the normal is off -/

/-- The normal of the half space is less than a right angle away from `n`, and lies along its
line up to the grain. -/
structure Faces (p : HalfSpace ℝ) (n : Vec3 ℝ) : Prop where
  unit : p.frame.normSq = 1
  forward : 0 ≤ p.normal.dot n
  aligned : (p.normal.cross n).norm ≤ Grain.epsilon

variable {p : HalfSpace ℝ} {n : Vec3 ℝ}

theorem faces_of_cases (hgrain : 0 ≤ Grain.epsilon) (hn : n.dot n = 1) (hp : p.frame.normSq = 1)
    (h : Grain.epsilon < (Vec3.ez.cross n).norm ∧ p.normal = n ∨
      (Vec3.ez.cross n).norm ≤ Grain.epsilon ∧
        (0 ≤ n.z ∧ p.normal = .ez ∨ n.z < 0 ∧ p.normal = Vec3.ez.scale (-1))) : p.Faces n := by
  refine ⟨hp, ?_, ?_⟩
  · rcases h with ⟨-, h⟩ | ⟨-, ⟨hz, h⟩ | ⟨hz, h⟩⟩ <;> rw [h]
    · exact hn ▸ zero_le_one
    · exact Vec3.ez_dot n ▸ hz
    · rw [Vec3.scale_dot, Vec3.ez_dot, mul_neg_one]
      exact neg_nonneg.2 hz.le
  · rcases h with ⟨-, h⟩ | ⟨hcross, ⟨-, h⟩ | ⟨-, h⟩⟩ <;> rw [h]
    · rw [Vec3.norm_le_iff hgrain, Vec3.cross_self, Vec3.zero_dot]
      exact sq_nonneg _
    · exact hcross
    · rw [Vec3.scale_cross, Vec3.norm_le_iff hgrain, Vec3.scale_dot, Vec3.dot_comm,
        Vec3.scale_dot, mul_neg_one, mul_neg_one, neg_neg]
      exact (Vec3.norm_le_iff hgrain).1 hcross

namespace Faces

theorem rightHanded (h : p.Faces n) :
    (p.frame.rotate .ex).RightHanded (p.frame.rotate .ey) p.normal :=
  Vec3.rightHanded_axes.rotate h.unit

theorem axesIn (h : p.Faces n) {m : Motion ℝ} (hm : m.pose.rotation.normSq = 1) :
    let (x, y, z) := p.axesIn m
    x.RightHanded y z ∧ z = m.direct p.normal :=
  ⟨Vec3.rightHanded_axes.rotate (unit_frameIn h.unit hm), frameIn_rotate_ez h.unit hm⟩

variable (h : p.Faces n) (hn : n.dot n = 1)
include h hn

theorem dot_sub_le : (p.normal - n).dot (p.normal - n) ≤ 2 * Grain.epsilon ^ 2 :=
  calc (p.normal - n).dot (p.normal - n) ≤ 2 * (p.normal.cross n).norm ^ 2 :=
        Vec3.dot_sub_self_le h.rightHanded.z_unit hn h.forward
    _ ≤ 2 * Grain.epsilon ^ 2 := by
        have hnonneg := Vec3.norm_nonneg (p.normal.cross n)
        have hle := h.aligned
        gcongr

theorem norm_sub_le (hgrain : 0 ≤ Grain.epsilon) : (p.normal - n).norm ≤ √2 * Grain.epsilon := by
  rw [Vec3.norm_le_iff (by positivity), mul_pow, Real.sq_sqrt zero_le_two]
  exact h.dot_sub_le hn

theorem one_sub_le_dot : 1 - Grain.epsilon ^ 2 ≤ p.normal.dot n := by
  have hsq := h.dot_sub_le hn
  rw [Vec3.dot_sub_self, h.rightHanded.z_unit, hn] at hsq
  linarith

end Faces

end HalfSpace

end Exact

/-- Whatever direction is asked for as the normal of a half space, and at whatever height, the
half space can be made. Its frame is a rotation, so that the two tangent axes and the normal
are right-handed, in the frame of the body and in space. Where the grain tells the direction
from the line of the third axis, the normal is that direction; where it does not, the normal
is the third axis or its opposite, whichever is on the side of the direction. So the normal is
never further off than the grain times the square root of two, and never on the other side. -/
theorem frame_faces_normal [Grain] (hgrain : 0 ≤ Grain.epsilon) {n : Vec3 ℝ} (hn : n.dot n = 1)
    (height : ℝ) :
    ∃ p : HalfSpace ℝ, HalfSpace.make n height = .ok p ∧ p.height = height ∧
      p.frame.normSq = 1 ∧
      (p.frame.rotate .ex).RightHanded (p.frame.rotate .ey) p.normal ∧
      (∀ m : Motion ℝ, m.pose.rotation.normSq = 1 →
        let (x, y, z) := p.axesIn m
        x.RightHanded y z ∧ z = m.direct p.normal) ∧
      (Grain.epsilon < (Vec3.ez.cross n).norm → p.normal = n) ∧
      ((Vec3.ez.cross n).norm ≤ Grain.epsilon →
        p.normal = if n.z < 0 then Vec3.ez.scale (-1) else .ez) ∧
      (p.normal - n).norm ≤ √2 * Grain.epsilon ∧
      0 ≤ p.normal.dot n ∧ 1 - Grain.epsilon ^ 2 ≤ p.normal.dot n ∧
      (Grain.epsilon < 1 → 0 < p.normal.dot n) := by
  obtain ⟨p, hmake, hheight, hunit, hcases⟩ := HalfSpace.make_cases hgrain hn height
  have h : p.Faces n := HalfSpace.faces_of_cases hgrain hn hunit hcases
  have hdot := h.one_sub_le_dot hn
  refine ⟨p, hmake, hheight, hunit, h.rightHanded, fun m => h.axesIn, fun hfar => ?_,
    fun hnear => ?_, h.norm_sub_le hn hgrain, h.forward, hdot, fun hone => ?_⟩
  · rcases hcases with ⟨-, hp⟩ | ⟨hnear, -⟩
    · exact hp
    · exact absurd hfar (not_lt.2 hnear)
  · rcases hcases with ⟨hfar, -⟩ | ⟨-, ⟨hz, hp⟩ | ⟨hz, hp⟩⟩
    · exact absurd hfar (not_lt.2 hnear)
    · rw [hp, if_neg (not_lt.2 hz)]
    · rw [hp, if_pos hz]
  · exact (sub_pos.2 (pow_lt_one₀ hgrain hone two_ne_zero)).trans_le hdot

/-- A normal that looks down at a slant, and one that looks straight down. -/
theorem frame_faces_normal_down :
    let _ : Grain := ⟨2⁻¹ ^ 52⟩
    let slanted : Vec3 ℝ := ⟨3 / 5, 0, -4 / 5⟩
    let down : Vec3 ℝ := ⟨0, 0, -1⟩
    0 ≤ Grain.epsilon ∧ slanted.dot slanted = 1 ∧ down.dot down = 1 ∧
      (∃ p, HalfSpace.make slanted 1 = .ok p ∧ p.normal = slanted) ∧
      ∃ p, HalfSpace.make down 2 = .ok p ∧ p.normal = down := by
  intro _ slanted down
  have hepsilon : Grain.epsilon = 2⁻¹ ^ 52 := rfl
  have hgrain : 0 ≤ Grain.epsilon := by norm_num [hepsilon]
  have hslanted : slanted.dot slanted = 1 := by norm_num [slanted, Vec3.dot]
  have hdown : down.dot down = 1 := by norm_num [down, Vec3.dot]
  obtain ⟨p, hp, -, -, -, -, hfar, -⟩ := frame_faces_normal hgrain hslanted 1
  obtain ⟨q, hq, -, -, -, -, -, hnear, -⟩ := frame_faces_normal hgrain hdown 2
  refine ⟨hgrain, hslanted, hdown, ⟨p, hp, hfar (not_le.1 fun hnear => ?_)⟩, q, hq, ?_⟩
  · rw [Vec3.norm_le_iff hgrain] at hnear
    norm_num [hepsilon, slanted, Vec3.dot, Vec3.ez] at hnear
  · rw [hnear ((Vec3.norm_le_iff hgrain).2 ?_), if_pos (by norm_num [down])]
    · ext <;> simp [down, Vec3.ez]
    · norm_num [hepsilon, down, Vec3.dot, Vec3.ez]

end OneSided
