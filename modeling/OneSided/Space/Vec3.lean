import OneSided.Scalar

/-! Vectors of space, also used for points, and vectors of a tangent plane. Sums of
products are added from left to right. -/

namespace OneSided

structure Vec3 (α : Type) where
  x : α
  y : α
  z : α

/-- Components along the two axes of a tangent plane. -/
structure Vec2 (α : Type) where
  x : α
  y : α

namespace Vec3

variable {α : Type} [Scalar α]

instance : Zero (Vec3 α) := ⟨⟨0, 0, 0⟩⟩

instance : Add (Vec3 α) := ⟨fun a b => ⟨a.x + b.x, a.y + b.y, a.z + b.z⟩⟩

instance : Sub (Vec3 α) := ⟨fun a b => ⟨a.x - b.x, a.y - b.y, a.z - b.z⟩⟩

/-- The vector stretched by a factor. -/
def scale (a : Vec3 α) (k : α) : Vec3 α := ⟨a.x * k, a.y * k, a.z * k⟩

def shrink (a : Vec3 α) (k : α) : Vec3 α := ⟨a.x / k, a.y / k, a.z / k⟩

def dot (a b : Vec3 α) : α := a.x * b.x + a.y * b.y + a.z * b.z

def cross (a b : Vec3 α) : Vec3 α :=
  ⟨a.y * b.z - a.z * b.y, a.z * b.x - a.x * b.z, a.x * b.y - a.y * b.x⟩

def norm (a : Vec3 α) : α := Scalar.sqrt (a.dot a)

def normalized (a : Vec3 α) : Vec3 α := a.shrink a.norm

/-- The direction of a vector longer than `least`. -/
def direction? (a : Vec3 α) (least : α) : Option (Vec3 α) :=
  if least * least < a.dot a then some a.normalized else none

def ex : Vec3 α := ⟨1, 0, 0⟩

def ey : Vec3 α := ⟨0, 1, 0⟩

def ez : Vec3 α := ⟨0, 0, 1⟩

@[simp] theorem add_x (a b : Vec3 α) : (a + b).x = a.x + b.x := rfl
@[simp] theorem add_y (a b : Vec3 α) : (a + b).y = a.y + b.y := rfl
@[simp] theorem add_z (a b : Vec3 α) : (a + b).z = a.z + b.z := rfl
@[simp] theorem sub_x (a b : Vec3 α) : (a - b).x = a.x - b.x := rfl
@[simp] theorem sub_y (a b : Vec3 α) : (a - b).y = a.y - b.y := rfl
@[simp] theorem sub_z (a b : Vec3 α) : (a - b).z = a.z - b.z := rfl

end Vec3

end OneSided
