import OneSided.Space.Rotation

/-! The motion of a rigid body at one instant: its placement, the velocity and
acceleration of its origin, its angular velocity (the spin) and the rate of the
spin. All vectors are measured in the ground frame, and so are the points and
directions that the functions take. -/

namespace OneSided

structure Motion (α : Type) where
  pose : Pose α
  velocity : Vec3 α
  spin : Vec3 α
  acceleration : Vec3 α
  spinRate : Vec3 α

namespace Motion

variable {α : Type} [Scalar α]

/-- A body that does not move. -/
def atRest (pose : Pose α) : Motion α := ⟨pose, 0, 0, 0, 0⟩

def origin (m : Motion α) : Vec3 α := m.pose.offset

/-- Where a station of the body lies. -/
def locate (m : Motion α) (station : Vec3 α) : Vec3 α := m.pose.place station

/-- Where a direction fixed in the body points. -/
def direct (m : Motion α) (d : Vec3 α) : Vec3 α := m.pose.rotation.rotate d

/-- The velocity of the material point that is at `p`. -/
def velocityAt (m : Motion α) (p : Vec3 α) : Vec3 α := m.velocity + m.spin.cross (p - m.origin)

/-- The acceleration of the material point that is at `p`. -/
def accelerationAt (m : Motion α) (p : Vec3 α) : Vec3 α :=
  let r := p - m.origin
  m.acceleration + m.spinRate.cross r + m.spin.cross (m.spin.cross r)

/-- The rate of `velocityAt` along a point that passes `p` with velocity `v` and need
not be fixed in the body. -/
def velocityRateAlong (m : Motion α) (p v : Vec3 α) : Vec3 α :=
  let r := p - m.origin
  m.acceleration + m.spinRate.cross r + m.spin.cross (v - m.velocity)

/-- The rate of a direction that turns with the body. -/
def directionRate (m : Motion α) (d : Vec3 α) : Vec3 α := m.spin.cross d

/-- The second rate of a direction that turns with the body. -/
def directionSecondRate (m : Motion α) (d : Vec3 α) : Vec3 α :=
  m.spinRate.cross d + m.spin.cross (m.spin.cross d)

end Motion

end OneSided
