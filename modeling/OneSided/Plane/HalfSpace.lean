import OneSided.Calibration.Rejection
import OneSided.Space.Motion

/-! A half space fixed on a body: all points at or above a height along a normal. It is
kept as a frame whose third axis is the normal; the other two span the tangent plane. -/

namespace OneSided

structure HalfSpace (α : Type) where
  frame : Rotation α
  height : α

namespace HalfSpace

variable {α : Type} [Scalar α]

/-- The frame is turned from the third coordinate axis to the normal the short way, and
by half a turn about the first axis if the normal points straight down. -/
def make (normal : Vec3 α) (height : α) : Except (Rejection α) (HalfSpace α) := do
  checkPlace .planeHeight height
  .ok ⟨(Rotation.between .ez normal).getD (.about .ex Scalar.pi), height⟩

/-- The normal in the frame of the body. -/
def normal (h : HalfSpace α) : Vec3 α := h.frame.rotate .ez

/-- The frame in space when the body moves as `b`. -/
def frameIn (h : HalfSpace α) (b : Motion α) : Rotation α := b.pose.rotation * h.frame

/-- The two tangent axes and the normal in space. -/
def axesIn (h : HalfSpace α) (b : Motion α) : Vec3 α × Vec3 α × Vec3 α :=
  let r := h.frameIn b
  (r.rotate .ex, r.rotate .ey, r.rotate .ez)

end HalfSpace

end OneSided
