import OneSided.Calibration.Slip
import OneSided.Contact.Unilateral

/-! Contacts of a ball or a point with a plane. A gliding touch only carries normal
force. A gripping touch has friction as well: its lock also takes the slip velocity
away, and normal and tangential directions are switched together. -/

namespace OneSided

/-- A point on a plane without friction. -/
structure GlidingTouch (α : Type) where
  lock : GlidingBall α
  restitution : Restitution α
  handle? : Option (Handle .contact)

/-- What touches the plane. -/
inductive Shape where
  | point
  | sphere
deriving DecidableEq

/-- A point or sphere on a plane with friction. -/
structure GrippingTouch (α : Type) where
  shape : Shape
  lock : StickingBall α
  restitution : Restitution α
  friction : DryFriction α
  handle? : Option (Handle .contact)

variable {α : Type} [Scalar α]

namespace GlidingTouch

/-- A ball that is a point. -/
def construct (base : Mobilizer) (normal : Vec3 α) (height : α) (follower : Mobilizer)
    (point : Vec3 α) (restitution : Restitution α) : Construction α (GlidingTouch α) := do
  let ball ← Ball.make base.handle normal height follower.handle point 0
  let lock ← GlidingBall.construct ball
  return ⟨lock, restitution, none⟩

def make (t : Topology) (base : Mobilizer) (normal : Vec3 α) (height : α) (follower : Mobilizer)
    (point : Vec3 α) (restitution : Restitution α) :
    Except (Rejection α) (GlidingTouch α × Topology) :=
  (construct base normal height follower point restitution).complete t

def positionError (c : GlidingTouch α) (s : State α) : Except (Fault α) α := do
  match ← c.lock.positionError s with
  | some e => return e
  | none => c.lock.ball.measure s Ball.separation

def velocityError (c : GlidingTouch α) (s : State α) : Except (Fault α) α := do
  match ← c.lock.velocityError s with
  | some e => return e
  | none => c.lock.ball.measure s Ball.separationRate

def accelerationError (c : GlidingTouch α) (s : State α) : Except (Fault α) α := do
  match ← c.lock.accelerationError s with
  | some e => return e
  | none => c.lock.ball.measure s Ball.separationSecondRate

def switch (c : GlidingTouch α) (s : State α) (on : Bool) : Outcome α Bool :=
  s.switch c.lock.constraint on [.contactSwitched on c.handle?]

instance : Unilateral (GlidingTouch α) α where
  sense _ := .positive
  handle? := handle?
  withHandle c h := { c with handle? := some h }
  switch := switch
  isEnabled c s := s.isEnabled c.lock.constraint
  location c s := c.lock.ball.measure s Ball.foot
  restitution c _ range impact := c.restitution.coefficient range impact
  positionError := positionError
  velocityError := velocityError
  accelerationError := accelerationError
  multiplierHandle c s := s.multiplierHandle c.lock.constraint 0

end GlidingTouch

namespace GrippingTouch

def construct (shape : Shape) (base : Mobilizer) (normal : Vec3 α) (height : α)
    (follower : Mobilizer) (centre : Vec3 α) (radius : α) (restitution : Restitution α)
    (friction : DryFriction α) : Construction α (GrippingTouch α) := do
  let ball ← Ball.make base.handle normal height follower.handle centre radius
  let lock ← StickingBall.construct ball
  return ⟨shape, lock, restitution, friction, none⟩

def make (t : Topology) (shape : Shape) (base : Mobilizer) (normal : Vec3 α) (height : α)
    (follower : Mobilizer) (centre : Vec3 α) (radius : α) (restitution : Restitution α)
    (friction : DryFriction α) : Except (Rejection α) (GrippingTouch α × Topology) :=
  (construct shape base normal height follower centre radius restitution friction).complete t

def positionError (c : GrippingTouch α) (s : State α) : Except (Fault α) α := do
  match ← c.lock.positionError s with
  | some e => return e
  | none => c.lock.ball.measure s Ball.separation

def velocityError (c : GrippingTouch α) (s : State α) : Except (Fault α) α := do
  match ← c.lock.velocityErrors s with
  | some e => return e.z
  | none => c.lock.ball.measure s Ball.separationRate

def accelerationError (c : GrippingTouch α) (s : State α) : Except (Fault α) α := do
  match ← c.lock.accelerationErrors s with
  | some e => return e.z
  | none => c.lock.ball.measure s Ball.separationSecondRate

def slipVelocity (c : GrippingTouch α) (s : State α) : Except (Fault α) (Vec2 α) := do
  match ← c.lock.velocityErrors s with
  | some e => return ⟨e.x, e.y⟩
  | none => c.lock.ball.measure s Ball.slipVelocity

def multiplierHandle (c : GrippingTouch α) (s : State α) (d : Direction) :
    Except (Fault α) (Option (Handle .multiplier)) :=
  s.multiplierHandle c.lock.constraint d.place

def frictionHandles (c : GrippingTouch α) (s : State α) :
    Except (Fault α) (Option (Handle .multiplier × Handle .multiplier)) := do
  match ← c.multiplierHandle s .tangentX, ← c.multiplierHandle s .tangentY with
  | some x, some y => return some (x, y)
  | _, _ => return none

def switch (c : GrippingTouch α) (s : State α) (on : Bool) : Outcome α Bool :=
  s.switch c.lock.constraint on [.contactSwitched on c.handle?]

/-- Points are drawn on the plane below them, spheres at their lowest point. -/
def location (c : GrippingTouch α) (s : State α) : Except (Fault α) (Vec3 α) :=
  match c.shape with
  | .point => c.lock.ball.measure s Ball.foot
  | .sphere => c.lock.ball.measure s Ball.contactPoint

instance : Unilateral (GrippingTouch α) α where
  sense _ := .positive
  handle? := handle?
  withHandle c h := { c with handle? := some h }
  switch := switch
  isEnabled c s := s.isEnabled c.lock.constraint
  location := location
  restitution c _ range impact := c.restitution.coefficient range impact
  positionError := positionError
  velocityError := velocityError
  accelerationError := accelerationError
  multiplierHandle c s := c.multiplierHandle s .normal
  hasFriction _ := true
  friction c _ transition slip := return some (← c.friction.coefficient transition slip)
  slipVelocity c s := return some (← c.slipVelocity s)
  frictionHandles := frictionHandles
  sticking? c := some c.lock

end GrippingTouch

end OneSided
