import OneSided.Friction.Joint

/-! The friction elements that an assembly can hold. -/

namespace OneSided

/-- A friction element whose readings are given, the same in every state. -/
structure PrescribedFriction (α : Type) where
  friction : DryFriction α
  normalForce : α
  slipSpeed : α
  multiplier? : Option (Handle .multiplier)
  handle? : Option (Handle .friction)

instance {α : Type} [Scalar α] : LimitedFriction (PrescribedFriction α) α where
  handle? f := f.handle?
  withHandle f h := { f with handle? := some h }
  switch _ s _ := ⟨s, .ok false, []⟩
  isEnabled f _ := .ok f.multiplier?.isSome
  normalForce f _ := .ok f.normalForce
  coefficient f _ transition slip := f.friction.coefficient transition slip
  slipSpeed f _ := .ok f.slipSpeed
  multiplierHandle f _ := .ok f.multiplier?

inductive FrictionElement (α : Type) where
  | joint (f : JointFriction α)
  | prescribed (f : PrescribedFriction α)

namespace FrictionElement

variable {α : Type} [Scalar α]

/-- Asks the element, whatever it is. -/
def ask {β : Type} (g : {κ : Type} → [LimitedFriction κ α] → κ → β) : FrictionElement α → β
  | joint f => g f
  | prescribed f => g f

instance : LimitedFriction (FrictionElement α) α where
  handle? := ask LimitedFriction.handle?
  withHandle f h :=
    match f with
    | joint f => .joint (LimitedFriction.withHandle f h)
    | prescribed f => .prescribed (LimitedFriction.withHandle f h)
  switch := ask LimitedFriction.switch
  isEnabled := ask LimitedFriction.isEnabled
  normalForce := ask LimitedFriction.normalForce
  coefficient := ask LimitedFriction.coefficient
  slipSpeed := ask LimitedFriction.slipSpeed
  multiplierHandle := ask LimitedFriction.multiplierHandle

end FrictionElement

end OneSided
