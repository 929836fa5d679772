import OneSided.Assembly.Topology

/-! What every friction element offers whose normal force is a function of the state,
and what follows from it. The element sticks while it is enabled; its force may then
be as large as the coefficient of friction times the normal force. -/

namespace OneSided

/-- `κ` is a kind of friction element in states over `α`. -/
class LimitedFriction (κ : Type) (α : outParam Type) where
  /-- The handle that the element was registered under. -/
  handle? : κ → Option (Handle .friction)
  withHandle : κ → Handle .friction → κ
  /-- Lets the element stick or slip and tells whether that changed anything. -/
  switch : κ → State α → Bool → Outcome α Bool
  isEnabled : κ → State α → Except (Fault α) Bool
  normalForce : κ → State α → Except (Fault α) α
  /-- The coefficient of friction at a slip speed, given a default transition speed. -/
  coefficient : κ → State α → α → α → Except (Fault α) α
  slipSpeed : κ → State α → Except (Fault α) α
  multiplierHandle : κ → State α → Except (Fault α) (Option (Handle .multiplier))

namespace LimitedFriction

variable {κ α : Type} [LimitedFriction κ α] [Scalar α]

/-- The force while the element sticks. -/
def force (f : κ) (s : State α) : Except (Fault α) (Option α) :=
  return (← multiplierHandle f s).bind s.multiplier?

/-- The largest force at the present slip speed and normal force. -/
def limit (f : κ) (s : State α) (transition : α) : Except (Fault α) α := do
  let c ← coefficient f s transition (← slipSpeed f s)
  return c * (← normalForce f s)

/-- Whether the force stays within the limit, up to `tol`. -/
def holds (f : κ) (s : State α) (transition tol : α) : Except (Fault α) Bool := do
  match ← force f s with
  | some x => return Scalar.abs x ≤ (← limit f s transition) + tol
  | none => return true

end LimitedFriction

end OneSided
