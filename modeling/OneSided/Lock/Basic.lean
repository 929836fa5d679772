import OneSided.Lock.Ball

/-! Any of the bilateral constraints that one-sided elements wrap. -/

namespace OneSided

inductive Lock (α : Type) where
  | coordinate (l : CoordinateLock α)
  | speed (l : SpeedLock α)
  | gliding (l : GlidingBall α)
  | sticking (l : StickingBall α)

namespace Lock

variable {α : Type}

def constraint : Lock α → Handle .constraint
  | coordinate l => l.constraint
  | speed l => l.constraint
  | gliding l => l.constraint
  | sticking l => l.constraint

/-- How many multipliers the lock takes while it is enabled. -/
def size : Lock α → Nat
  | sticking _ => 3
  | _ => 1

/-- The ball that the lock keeps on a plane. -/
def ball? : Lock α → Option (Ball α)
  | gliding l => some l.ball
  | sticking l => some l.ball
  | _ => none

/-- Locks switch silently: what is worth a notice is the element around them. -/
def switch (l : Lock α) (s : State α) (on : Bool) : Outcome α Bool :=
  s.switch l.constraint on []

def multiplierHandle (l : Lock α) (s : State α) (which : UInt64) :
    Except (Fault α) (Option (Handle .multiplier)) :=
  s.multiplierHandle l.constraint which

end Lock

end OneSided
