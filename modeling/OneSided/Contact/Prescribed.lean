import OneSided.Contact.Unilateral

/-! A contact whose readings are given, the same in every state. It wraps no lock, so
there is nothing to switch. -/

namespace OneSided

structure PrescribedContact (α : Type) where
  sense : Sense
  positionError : α
  velocityError : α
  accelerationError : α
  restitution : Restitution α
  multiplier? : Option (Handle .multiplier)
  handle? : Option (Handle .contact)

instance {α : Type} [Scalar α] : Unilateral (PrescribedContact α) α where
  sense c := c.sense
  handle? c := c.handle?
  withHandle c h := { c with handle? := some h }
  switch _ s _ := ⟨s, .ok false, []⟩
  isEnabled c _ := .ok c.multiplier?.isSome
  location _ _ := .ok 0
  restitution c _ range impact := c.restitution.coefficient range impact
  positionError c _ := .ok c.positionError
  velocityError c _ := .ok c.velocityError
  accelerationError c _ := .ok c.accelerationError
  multiplierHandle c _ := .ok c.multiplier?

end OneSided
