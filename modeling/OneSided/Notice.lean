import OneSided.Scalar
import OneSided.Handle

/-! What is reported while a model is put together and run, besides the answers. -/

namespace OneSided

inductive Severity where
  | trace
  | debug
  | warn
deriving DecidableEq

def Severity.text : Severity → String
  | trace => "TRACE"
  | debug => "DEBUG"
  | warn => "WARN"

/-- The name of a kind of handle in debug texts. -/
def Kind.typeText : Kind → String
  | .body => "MobodIndex"
  | .constraint => "ConstraintIndex"
  | .multiplier => "MultiplierIndex"
  | .contact => "UnilateralContactIndex"
  | .friction => "StateLimitedFrictionIndex"
  | .drive => "BoundedSpeedIndex"

/-- The debug text of a handle that may not be assigned yet. -/
def Handle.optionText {k : Kind} : Option (Handle k) → String
  | none => "None"
  | some h => "Some(" ++ k.typeText ++ "(" ++ toString h.toNat ++ "))"

inductive Notice (α : Type) where
  | stopSwitched (on : Bool) (which : Nat) (body : Handle .body)
  | contactSwitched (on : Bool) (contact : Option (Handle .contact))
  | frictionSwitched (on : Bool) (friction : Option (Handle .friction))
  | driveSwitched (on : Bool) (drive : Option (Handle .drive))
  | multipliersAssigned (count : Nat) (time : α)
  | registered {k : Kind} (handle : Handle k)
  | registeredAgain {k : Kind} (before : Handle k)

namespace Notice

variable {α : Type}

def severity : Notice α → Severity
  | registered _ => .debug
  | registeredAgain _ => .warn
  | _ => .trace

def switchText (on : Bool) : String := if on then "enabled" else "disabled"

/-- How messages call what is registered under a kind of handle. -/
def elementText : Kind → String
  | .friction => "friction element"
  | .drive => "bounded speed constraint"
  | _ => "contact"

def message [Legible α] : Notice α → String
  | stopSwitched on which body =>
    switchText on ++ " the stop on q" ++ toString which ++ " of " ++ body.name
  | contactSwitched on contact => switchText on ++ " contact " ++ Handle.optionText contact
  | frictionSwitched on friction =>
    "friction " ++ Handle.optionText friction ++ if on then " sticks" else " slips"
  | driveSwitched on drive =>
    "motor " ++ Handle.optionText drive ++ if on then " holds its speed" else " saturates"
  | multipliersAssigned count time =>
    "assigned " ++ toString count ++ " multipliers at t = " ++ Legible.text time
  | registered handle => "registered " ++ handle.name
  | @registeredAgain _ k before =>
    "the " ++ elementText k ++ " registered as " ++ before.name ++ " is registered again"

end Notice

end OneSided
