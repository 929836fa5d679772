import OneSided.Assembly.Topology

/-! What every drive offers that holds a speed as long as its reaction stays within
bounds, and what follows from it. Beyond a bound the drive slips and its reaction
stays at the bound. -/

namespace OneSided

/-- What a drive does, with the reaction it then has. -/
inductive Regime (α : Type) where
  | holding (reaction : α)
  | slippingAtLower (reaction : α)
  | slippingAtUpper (reaction : α)

namespace Regime

variable {α : Type}

def reaction : Regime α → α
  | holding r => r
  | slippingAtLower r => r
  | slippingAtUpper r => r

def isHolding : Regime α → Bool
  | holding _ => true
  | _ => false

def name : Regime α → String
  | holding _ => "Holding"
  | slippingAtLower _ => "SlippingAtLower"
  | slippingAtUpper _ => "SlippingAtUpper"

end Regime

/-- `κ` is a kind of drive in states over `α`. -/
class BoundedDrive (κ : Type) (α : outParam Type) where
  /-- The handle that the drive was registered under. -/
  handle? : κ → Option (Handle .drive)
  withHandle : κ → Handle .drive → κ
  /-- Lets the drive hold or slip and tells whether that changed anything. -/
  switch : κ → State α → Bool → Outcome α Bool
  isEnabled : κ → State α → Except (Fault α) Bool
  /-- How much faster the coordinate moves than the drive would have it. -/
  speedError : κ → State α → Except (Fault α) α
  multiplierHandle : κ → State α → Except (Fault α) (Option (Handle .multiplier))
  /-- The least and the largest reaction. -/
  bounds : κ → State α → Except (Fault α) (α × α)

namespace BoundedDrive

variable {κ α : Type} [BoundedDrive κ α] [Scalar α]

/-- The reaction while the drive holds: it acts against its multiplier. -/
def reaction (d : κ) (s : State α) : Except (Fault α) (Option α) :=
  return ((← multiplierHandle d s).bind s.multiplier?).map (-·)

/-- The regime in which a drive is that would need `holding` to hold its speed. -/
def resolve (d : κ) (s : State α) (holding : α) : Except (Fault α) (Regime α) := do
  let (lower, upper) ← bounds d s
  if ¬lower ≤ upper then .error (.reactionBounds lower upper)
  else if holding < lower then return .slippingAtLower lower
  else if upper < holding then return .slippingAtUpper upper
  else return .holding holding

/-- Whether a reaction fits the speed: at the lower bound above the speed to hold, at
the upper bound below it, and within the bounds at that speed, all up to `tol`. -/
def satisfies (d : κ) (s : State α) (reaction tol : α) : Except (Fault α) Bool := do
  let (lower, upper) ← bounds d s
  let e ← speedError d s
  if tol < e then return Scalar.abs (reaction - lower) ≤ tol
  else if e < -tol then return Scalar.abs (reaction - upper) ≤ tol
  else return lower - tol ≤ reaction ∧ reaction ≤ upper + tol

end BoundedDrive

end OneSided
