import OneSided.Contact.Prescribed
import OneSided.Contact.Stop
import OneSided.Contact.Touch

/-! The contacts that an assembly can hold. -/

namespace OneSided

inductive Contact (α : Type) where
  | stop (c : Stop α)
  | gliding (c : GlidingTouch α)
  | gripping (c : GrippingTouch α)
  | prescribed (c : PrescribedContact α)

namespace Contact

variable {α : Type}

/-- The lock that the contact wraps. -/
def lock? : Contact α → Option (Lock α)
  | stop c => some (.coordinate c.lock)
  | gliding c => some (.gliding c.lock)
  | gripping c => some (.sticking c.lock)
  | prescribed _ => none

/-- Asks the contact, whatever it is. -/
def ask [Scalar α] {β : Type} (f : {κ : Type} → [Unilateral κ α] → κ → β) : Contact α → β
  | stop c => f c
  | gliding c => f c
  | gripping c => f c
  | prescribed c => f c

instance [Scalar α] : Unilateral (Contact α) α where
  sense := ask Unilateral.sense
  handle? := ask Unilateral.handle?
  withHandle c h :=
    match c with
    | stop c => .stop (Unilateral.withHandle c h)
    | gliding c => .gliding (Unilateral.withHandle c h)
    | gripping c => .gripping (Unilateral.withHandle c h)
    | prescribed c => .prescribed (Unilateral.withHandle c h)
  switch := ask Unilateral.switch
  isEnabled := ask Unilateral.isEnabled
  location := ask Unilateral.location
  restitution := ask Unilateral.restitution
  positionError := ask Unilateral.positionError
  velocityError := ask Unilateral.velocityError
  accelerationError := ask Unilateral.accelerationError
  multiplierHandle := ask Unilateral.multiplierHandle
  hasFriction := ask Unilateral.hasFriction
  friction := ask Unilateral.friction
  slipVelocity := ask Unilateral.slipVelocity
  frictionHandles := ask Unilateral.frictionHandles
  sticking? := ask Unilateral.sticking?

end Contact

end OneSided
