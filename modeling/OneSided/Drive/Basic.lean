import OneSided.Drive.Motor

/-! The drives that an assembly can hold. -/

namespace OneSided

/-- A drive whose readings are given, the same in every state. -/
structure PrescribedDrive (α : Type) where
  lower : α
  upper : α
  speedError : α
  multiplier? : Option (Handle .multiplier)
  handle? : Option (Handle .drive)

instance {α : Type} : BoundedDrive (PrescribedDrive α) α where
  handle? d := d.handle?
  withHandle d h := { d with handle? := some h }
  switch _ s _ := ⟨s, .ok false, []⟩
  isEnabled d _ := .ok d.multiplier?.isSome
  speedError d _ := .ok d.speedError
  multiplierHandle d _ := .ok d.multiplier?
  bounds d _ := .ok (d.lower, d.upper)

inductive Drive (α : Type) where
  | motor (m : Motor α)
  | prescribed (d : PrescribedDrive α)

namespace Drive

variable {α : Type} [Scalar α]

/-- Asks the drive, whatever it is. -/
def ask {β : Type} (g : {κ : Type} → [BoundedDrive κ α] → κ → β) : Drive α → β
  | motor m => g m
  | prescribed d => g d

instance : BoundedDrive (Drive α) α where
  handle? := ask BoundedDrive.handle?
  withHandle d h :=
    match d with
    | motor m => .motor (BoundedDrive.withHandle m h)
    | prescribed d => .prescribed (BoundedDrive.withHandle d h)
  switch := ask BoundedDrive.switch
  isEnabled := ask BoundedDrive.isEnabled
  speedError := ask BoundedDrive.speedError
  multiplierHandle := ask BoundedDrive.multiplierHandle
  bounds := ask BoundedDrive.bounds

end Drive

end OneSided
