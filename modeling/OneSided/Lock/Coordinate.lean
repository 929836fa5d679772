import OneSided.Assembly.Construction

/-! Bilateral constraints on one coordinate. A lock only reports errors while it is
enabled. -/

namespace OneSided

/-- Holds a coordinate at a value. -/
structure CoordinateLock (α : Type) where
  constraint : Handle .constraint
  place : Nat
  value : α

/-- Holds a speed at a value. -/
structure SpeedLock (α : Type) where
  constraint : Handle .constraint
  place : Nat
  speed : α

namespace State

variable {α β : Type}

/-- The answer of a question that is only asked while a constraint is enabled. -/
def whileEnabled (s : State α) (c : Handle .constraint) (ask : Except (Fault α) β) :
    Except (Fault α) (Option β) := do
  if ← s.isEnabled c then return some (← ask) else return none

end State

variable {α : Type} [Scalar α]

namespace CoordinateLock

def construct (body : Mobilizer) (which : Nat) (value : α) :
    Construction α (CoordinateLock α) := do
  let place ← (body.place which : Except (Rejection α) Nat)
  let constraint ← Construction.register 1
  return ⟨constraint, place, value⟩

def register (t : Topology) (body : Mobilizer) (which : Nat) (value : α) :
    Except (Rejection α) (CoordinateLock α × Topology) :=
  (construct body which value).complete t

def positionError (l : CoordinateLock α) (s : State α) : Except (Fault α) (Option α) :=
  s.whileEnabled l.constraint do return (← s.coordinate l.place) - l.value

def velocityError (l : CoordinateLock α) (s : State α) : Except (Fault α) (Option α) :=
  s.whileEnabled l.constraint (s.speed l.place)

def accelerationError (l : CoordinateLock α) (s : State α) : Except (Fault α) (Option α) :=
  s.whileEnabled l.constraint (s.rate l.place)

end CoordinateLock

namespace SpeedLock

def construct (body : Mobilizer) (which : Nat) (speed : α) : Construction α (SpeedLock α) := do
  let place ← (body.place which : Except (Rejection α) Nat)
  let constraint ← Construction.register 1
  return ⟨constraint, place, speed⟩

def register (t : Topology) (body : Mobilizer) (which : Nat) (speed : α) :
    Except (Rejection α) (SpeedLock α × Topology) :=
  (construct body which speed).complete t

/-- How much faster the coordinate moves than the lock would have it, enabled or not. -/
def excess (l : SpeedLock α) (s : State α) : Except (Fault α) α :=
  return (← s.speed l.place) - l.speed

def velocityError (l : SpeedLock α) (s : State α) : Except (Fault α) (Option α) :=
  s.whileEnabled l.constraint (l.excess s)

def accelerationError (l : SpeedLock α) (s : State α) : Except (Fault α) (Option α) :=
  s.whileEnabled l.constraint (s.rate l.place)

end SpeedLock

end OneSided
