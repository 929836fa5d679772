import OneSided.Calibration.Slip
import OneSided.Friction.Limited
import OneSided.Lock.Coordinate

/-! Dry friction on one coordinate of a body, as in a joint. -/

namespace OneSided

/-- Only the magnitude of a normal force counts. -/
inductive NormalForce (α : Type) where
  | constant (x : α)
  | ofState (f : State α → Except (Fault α) α)

namespace NormalForce

variable {α : Type} [Scalar α]

/-- A checked constant. -/
def makeConstant (x : α) : Except (Rejection α) (NormalForce α) := do
  checkForceLimit .normalForce x
  .ok (constant x)

def magnitude (n : NormalForce α) (s : State α) : Except (Fault α) α :=
  match n with
  | constant x => .ok (Scalar.abs x)
  | ofState f => return Scalar.abs (← f s)

/-- The debug text. -/
def text [Legible α] : NormalForce α → String
  | constant x => "Constant(" ++ (Legible.numeral x).telling ++ ")"
  | ofState _ => "Function(..)"

/-- Constants are checked, functions are taken as they are. -/
def check : NormalForce α → Except (Rejection α) Unit
  | constant x => checkForceLimit .normalForce x
  | ofState _ => .ok ()

end NormalForce

structure JointFriction (α : Type) where
  body : Mobilizer
  which : Nat
  friction : DryFriction α
  normal : NormalForce α
  lock : SpeedLock α
  handle? : Option (Handle .friction)

namespace JointFriction

variable {α : Type} [Scalar α]

def construct (body : Mobilizer) (which : Nat) (friction : DryFriction α)
    (normal : NormalForce α) : Construction α (JointFriction α) := do
  normal.check
  let lock ← SpeedLock.construct body which 0
  return ⟨body, which, friction, normal, lock, none⟩

def make (t : Topology) (body : Mobilizer) (which : Nat) (friction : DryFriction α)
    (normal : NormalForce α) : Except (Rejection α) (JointFriction α × Topology) :=
  (construct body which friction normal).complete t

/-- The velocity at which the coordinate slips. -/
def slipVelocity (f : JointFriction α) (s : State α) : Except (Fault α) α := f.lock.excess s

def switch (f : JointFriction α) (s : State α) (on : Bool) : Outcome α Bool :=
  s.switch f.lock.constraint on [.frictionSwitched on f.handle?]

instance : LimitedFriction (JointFriction α) α where
  handle? := handle?
  withHandle f h := { f with handle? := some h }
  switch := switch
  isEnabled f s := s.isEnabled f.lock.constraint
  normalForce f s := f.normal.magnitude s
  coefficient f _ transition slip := f.friction.coefficient transition slip
  slipSpeed f s := return Scalar.abs (← f.slipVelocity s)
  multiplierHandle f s := s.multiplierHandle f.lock.constraint 0

end JointFriction

end OneSided
