import OneSided.Lock.Coordinate
import OneSided.Plane.Ball

/-! Bilateral constraints that keep a ball on a plane: one lets it glide, the other also
takes its slip velocity away. They report errors only while enabled, the tangential
components first. -/

namespace OneSided

/-- Keeps a ball on a plane. -/
structure GlidingBall (α : Type) where
  constraint : Handle .constraint
  ball : Ball α

/-- Keeps a ball on a plane and from slipping on it. -/
structure StickingBall (α : Type) where
  constraint : Handle .constraint
  ball : Ball α

/-- The multipliers of a sticking ball: two tangential ones and the normal one. -/
inductive Direction where
  | tangentX
  | tangentY
  | normal
deriving DecidableEq

def Direction.place : Direction → UInt64
  | tangentX => 0
  | tangentY => 1
  | normal => 2

variable {α : Type} [Scalar α]

namespace GlidingBall

def register (t : Topology) (ball : Ball α) : GlidingBall α × Topology :=
  let (constraint, t) := t.addConstraint 1
  (⟨constraint, ball⟩, t)

def construct (ball : Ball α) : Construction α (GlidingBall α) :=
  modifyGet fun t => register t ball

def positionError (l : GlidingBall α) (s : State α) : Except (Fault α) (Option α) :=
  s.whileEnabled l.constraint (l.ball.measure s Ball.separation)

def velocityError (l : GlidingBall α) (s : State α) : Except (Fault α) (Option α) :=
  s.whileEnabled l.constraint (l.ball.measure s Ball.separationRate)

def accelerationError (l : GlidingBall α) (s : State α) : Except (Fault α) (Option α) :=
  s.whileEnabled l.constraint (l.ball.measure s Ball.separationSecondRate)

end GlidingBall

namespace StickingBall

def register (t : Topology) (ball : Ball α) : StickingBall α × Topology :=
  let (constraint, t) := t.addConstraint 3
  (⟨constraint, ball⟩, t)

def construct (ball : Ball α) : Construction α (StickingBall α) :=
  modifyGet fun t => register t ball

def positionError (l : StickingBall α) (s : State α) : Except (Fault α) (Option α) :=
  s.whileEnabled l.constraint (l.ball.measure s Ball.separation)

def velocityErrors (l : StickingBall α) (s : State α) : Except (Fault α) (Option (Vec3 α)) :=
  s.whileEnabled l.constraint do
    let slip ← l.ball.measure s Ball.slipVelocity
    return ⟨slip.x, slip.y, ← l.ball.measure s Ball.separationRate⟩

def accelerationErrors (l : StickingBall α) (s : State α) : Except (Fault α) (Option (Vec3 α)) :=
  s.whileEnabled l.constraint do
    let slip ← l.ball.measure s Ball.slipAcceleration
    return ⟨slip.x, slip.y, ← l.ball.measure s Ball.separationSecondRate⟩

def anchor (l : StickingBall α) (s : State α) : Except (Fault α) (Option (Vec3 α)) :=
  s.anchor l.constraint

def setAnchor (l : StickingBall α) (s : State α) (p : Option (Vec3 α)) : Outcome α Unit :=
  s.setAnchor l.constraint p

def contactCoordinates (l : StickingBall α) (s : State α) : Except (Fault α) (Vec3 α) :=
  l.ball.measure s Ball.contactCoordinates

/-- How far the contact point has moved along the plane since it took hold. -/
def drift (l : StickingBall α) (s : State α) : Except (Fault α) (Option (Vec2 α)) := do
  if ← s.isEnabled l.constraint then
    match ← l.anchor s with
    | none => return none
    | some a =>
      let c ← l.contactCoordinates s
      return some ⟨c.x - a.x, c.y - a.y⟩
  else return none

end StickingBall

end OneSided
