import OneSided.Contact.Unilateral

/-! Hard stops of a coordinate. An upper stop keeps the coordinate from growing past a
limit, a lower stop from falling below one. While the lock of a stop is disabled its
errors are read from the coordinate arrays. -/

namespace OneSided

inductive Side where
  | upper
  | lower
deriving DecidableEq

structure Stop (α : Type) where
  side : Side
  body : Mobilizer
  which : Nat
  limit : α
  restitution : Restitution α
  lock : CoordinateLock α
  handle? : Option (Handle .contact)

namespace Stop

variable {α : Type} [Scalar α]

def construct (side : Side) (body : Mobilizer) (which : Nat) (limit : α)
    (restitution : Restitution α) : Construction α (Stop α) := do
  checkPlace .coordinateLimit limit
  let lock ← CoordinateLock.construct body which limit
  return ⟨side, body, which, limit, restitution, lock, none⟩

def make (t : Topology) (side : Side) (body : Mobilizer) (which : Nat) (limit : α)
    (restitution : Restitution α) : Except (Rejection α) (Stop α × Topology) :=
  (construct side body which limit restitution).complete t

/-- A lower stop opens as its coordinate grows, an upper stop as it falls. -/
def sense (c : Stop α) : Sense :=
  match c.side with
  | .upper => .negative
  | .lower => .positive

def switch (c : Stop α) (s : State α) (on : Bool) : Outcome α Bool :=
  s.switch c.lock.constraint on [.stopSwitched on c.which c.body.handle]

def positionError (c : Stop α) (s : State α) : Except (Fault α) α := do
  match ← c.lock.positionError s with
  | some e => return e
  | none => return (← c.body.coordinate s c.which) - c.limit

def velocityError (c : Stop α) (s : State α) : Except (Fault α) α := do
  match ← c.lock.velocityError s with
  | some e => return e
  | none => c.body.speed s c.which

def accelerationError (c : Stop α) (s : State α) : Except (Fault α) α := do
  match ← c.lock.accelerationError s with
  | some e => return e
  | none => c.body.rate s c.which

instance : Unilateral (Stop α) α where
  sense := sense
  handle? := handle?
  withHandle c h := { c with handle? := some h }
  switch := switch
  isEnabled c s := s.isEnabled c.lock.constraint
  location c s := c.body.origin s
  restitution c _ range impact := c.restitution.coefficient range impact
  positionError := positionError
  velocityError := velocityError
  accelerationError := accelerationError
  multiplierHandle c s := s.multiplierHandle c.lock.constraint 0

end Stop

end OneSided
