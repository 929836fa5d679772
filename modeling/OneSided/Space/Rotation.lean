import OneSided.Space.Vec3

/-! Rotations as quaternions `w + i·𝐢 + j·𝐣 + k·𝐤` of norm one, and the placement of a
body: a rotation followed by a shift. Nothing here renormalizes: the formulas
are applied to the four numbers as they are. -/

namespace OneSided

structure Rotation (α : Type) where
  i : α
  j : α
  k : α
  w : α

namespace Rotation

variable {α : Type} [Scalar α]

protected def id : Rotation α := ⟨0, 0, 0, 1⟩

/-- The axis part. -/
def vector (r : Rotation α) : Vec3 α := ⟨r.i, r.j, r.k⟩

def ofParts (w : α) (v : Vec3 α) : Rotation α := ⟨v.x, v.y, v.z, w⟩

/-- First `b`, then `a`. -/
instance : Mul (Rotation α) where
  mul a b :=
    { i := a.w * b.i + a.i * b.w + a.j * b.k - a.k * b.j
      j := a.w * b.j - a.i * b.k + a.j * b.w + a.k * b.i
      k := a.w * b.k + a.i * b.j - a.j * b.i + a.k * b.w
      w := a.w * b.w - a.i * b.i - a.j * b.j - a.k * b.k }

/-- The rotation back. -/
def conj (r : Rotation α) : Rotation α := ⟨-r.i, -r.j, -r.k, r.w⟩

def rotate (r : Rotation α) (v : Vec3 α) : Vec3 α :=
  let t := (r.vector.cross v).scale (1 + 1)
  t.scale r.w + r.vector.cross t + v

def unrotate (r : Rotation α) (v : Vec3 α) : Vec3 α := r.conj.rotate v

def normSq (r : Rotation α) : α := r.i * r.i + r.k * r.k + (r.j * r.j + r.w * r.w)

def normalized (r : Rotation α) : Rotation α :=
  let n := Scalar.sqrt r.normSq
  ⟨r.i / n, r.j / n, r.k / n, r.w / n⟩

/-- The turn by `angle` about the unit vector `axis`. -/
def about (axis : Vec3 α) (angle : α) : Rotation α :=
  let half := angle / (1 + 1)
  ofParts (Scalar.cos half) (axis.scale (Scalar.sin half))

/-- The turn about the direction of `v` by its length. -/
def ofVector (v : Vec3 α) : Rotation α :=
  let h := v.shrink (1 + 1)
  let n := h.dot h
  if n ≤ Scalar.epsilon * Scalar.epsilon then .id
  else
    let n := Scalar.sqrt n
    ofParts (Scalar.cos n) (h.scale (Scalar.sin n / n))

/-- The shortest rotation between two unit vectors. There is none when they point
in opposite directions, since every axis across them would do. -/
def betweenUnits (a b : Vec3 α) : Option (Rotation α) :=
  match (a.cross b).direction? Scalar.epsilon with
  | some axis =>
    let cos := a.dot b
    if cos ≤ -1 then none
    else if 1 ≤ cos then some .id
    else some (about axis (Scalar.acos cos))
  | none => if a.dot b < 0 then none else some .id

/-- The shortest rotation that takes the direction of `a` to that of `b`. A vector
without direction asks for no rotation. -/
def between (a b : Vec3 α) : Option (Rotation α) :=
  match a.direction? 0, b.direction? 0 with
  | some a, some b => betweenUnits a b
  | _, _ => some .id

end Rotation

/-- A placement in space. -/
structure Pose (α : Type) where
  rotation : Rotation α
  offset : Vec3 α

namespace Pose

variable {α : Type} [Scalar α]

protected def id : Pose α := ⟨.id, 0⟩

/-- Where a point that is fixed in the placed frame lies in space. -/
def place (p : Pose α) (point : Vec3 α) : Vec3 α := p.rotation.rotate point + p.offset

end Pose

end OneSided
