import OneSided.Plane.HalfSpace
import OneSided.State.Basic

/-! A ball on one body above a half space on another. The measures are functions of the
motions `b` of the body with the half space and `f` of the body with the ball. A point
is a ball without radius. -/

namespace OneSided

structure Ball (α : Type) where
  /-- The body of the half space. -/
  base : Handle .body
  plane : HalfSpace α
  follower : Handle .body
  /-- The centre, as a station of the follower. -/
  centre : Vec3 α
  radius : α

/-- The separation of a ball with its first two rates. -/
structure NormalErrors (α : Type) where
  position : α
  velocity : α
  acceleration : α

namespace Ball

variable {α : Type} [Scalar α]

/-- A ball with a checked radius and half space. -/
def make (base : Handle .body) (normal : Vec3 α) (height : α) (follower : Handle .body)
    (centre : Vec3 α) (radius : α) : Except (Rejection α) (Ball α) := do
  checkRadius radius
  let plane ← HalfSpace.make normal height
  .ok ⟨base, plane, follower, centre, radius⟩

/-- The height of the lowest point of the ball above the half space; negative inside. -/
def separation (g : Ball α) (b f : Motion α) : α :=
  let n := b.direct g.plane.normal
  n.dot (f.locate g.centre - b.origin) - g.plane.height - g.radius

/-- What the normal direction of a contact reports: the separation and its rates. -/
def normalErrors (g : Ball α) (b f : Motion α) : NormalErrors α :=
  let n := b.direct g.plane.normal
  let nRate := b.directionRate n
  let nSecondRate := b.directionSecondRate n
  let p := f.locate g.centre
  let d := p - b.origin
  let dRate := f.velocityAt p - b.velocity
  let dSecondRate := f.accelerationAt p - b.acceleration
  { position := n.dot d - g.plane.height - g.radius
    velocity := nRate.dot d + n.dot dRate
    acceleration := nSecondRate.dot d + (1 + 1) * nRate.dot dRate + n.dot dSecondRate }

/-- The rate of the separation. -/
def separationRate (g : Ball α) (b f : Motion α) : α := (g.normalErrors b f).velocity

/-- The second rate of the separation. -/
def separationSecondRate (g : Ball α) (b f : Motion α) : α := (g.normalErrors b f).acceleration

/-- The point of the ball that is lowest above the half space. -/
def contactPoint (g : Ball α) (b f : Motion α) : Vec3 α :=
  f.locate g.centre - (b.direct g.plane.normal).scale g.radius

/-- The point of the plane below the centre. -/
def foot (g : Ball α) (b f : Motion α) : Vec3 α :=
  let n := b.direct g.plane.normal
  let p := f.locate g.centre
  p - n.scale (n.dot (p - b.origin) - g.plane.height)

/-- The tangential velocity of the follower against the base at the contact point. -/
def slipVelocity (g : Ball α) (b f : Motion α) : Vec2 α :=
  let c := g.contactPoint b f
  let (x, y, _) := g.plane.axesIn b
  let w := f.velocityAt c - b.velocityAt c
  ⟨w.dot x, w.dot y⟩

/-- The rate of the slip velocity. The contact point moves over both bodies and the
tangent axes turn with the base. -/
def slipAcceleration (g : Ball α) (b f : Motion α) : Vec2 α :=
  let n := b.direct g.plane.normal
  let p := f.locate g.centre
  let c := p - n.scale g.radius
  let v := f.velocityAt p - (b.directionRate n).scale g.radius
  let w := f.velocityAt c - b.velocityAt c
  let a := f.velocityRateAlong c v - b.velocityRateAlong c v
  let (x, y, _) := g.plane.axesIn b
  ⟨(b.directionRate x).dot w + x.dot a, (b.directionRate y).dot w + y.dot a⟩

/-- A point of space by its components along the plane axes, the third one counted from
the plane. -/
def planeCoordinates (g : Ball α) (b : Motion α) (p : Vec3 α) : Vec3 α :=
  let r := (g.plane.frameIn b).unrotate (p - b.origin)
  ⟨r.x, r.y, r.z - g.plane.height⟩

/-- The contact point in plane coordinates. -/
def contactCoordinates (g : Ball α) (b f : Motion α) : Vec3 α :=
  g.planeCoordinates b (g.contactPoint b f)

/-- A measure of the ball in a state. -/
def measure {β : Type} (g : Ball α) (s : State α) (m : Ball α → Motion α → Motion α → β) :
    Except (Fault α) β :=
  return m g (← s.motion g.base) (← s.motion g.follower)

end Ball

end OneSided
