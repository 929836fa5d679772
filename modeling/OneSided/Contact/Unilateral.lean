import OneSided.Calibration.Thresholds
import OneSided.Contact.Sense
import OneSided.Lock.Basic

/-! What every unilateral contact offers, and what follows from it. A contact has a
signed error, its rates, and a multiplier while it is enabled; counted in its sense
the error must not be negative, and the force of a closed contact only pushes. -/

namespace OneSided

/-- `κ` is a kind of unilateral contact in states over `α`. -/
class Unilateral (κ : Type) (α : outParam Type) where
  sense : κ → Sense
  /-- The handle that the contact was registered under. -/
  handle? : κ → Option (Handle .contact)
  withHandle : κ → Handle .contact → κ
  /-- Enables or disables the contact and tells whether that changed anything. -/
  switch : κ → State α → Bool → Outcome α Bool
  isEnabled : κ → State α → Except (Fault α) Bool
  /-- Where the contact is drawn. -/
  location : κ → State α → Except (Fault α) (Vec3 α)
  /-- The coefficient of restitution of an impact at a speed, given a default range. -/
  restitution : κ → State α → ImpactRange α → α → Except (Fault α) α
  positionError : κ → State α → Except (Fault α) α
  velocityError : κ → State α → Except (Fault α) α
  accelerationError : κ → State α → Except (Fault α) α
  multiplierHandle : κ → State α → Except (Fault α) (Option (Handle .multiplier))
  hasFriction : κ → Bool := fun _ => false
  /-- The coefficient of friction at a slip speed, given a default transition speed. -/
  friction : κ → State α → α → α → Except (Fault α) (Option α) := fun _ _ _ _ => .ok none
  slipVelocity : κ → State α → Except (Fault α) (Option (Vec2 α)) := fun _ _ => .ok none
  /-- The multipliers of the two tangential directions. -/
  frictionHandles : κ → State α →
    Except (Fault α) (Option (Handle .multiplier × Handle .multiplier)) := fun _ _ => .ok none
  /-- The lock whose anchor marks where the contact took hold. -/
  sticking? : κ → Option (StickingBall α) := fun _ => none

/-- The first condition of a contact that does not hold. -/
inductive Violation where
  | penetration
  | approach
  | acceleration
  | attraction
  | complementarity
deriving DecidableEq

def Violation.name : Violation → String
  | penetration => "Penetration"
  | approach => "Approach"
  | acceleration => "Acceleration"
  | attraction => "AttractiveForce"
  | complementarity => "Complementarity"

/-- The multiplier that a handle names, if there is one. -/
def State.multiplierAt? {α : Type} (s : State α) (m : Option (Handle .multiplier)) : Option α :=
  m.bind s.multiplier?

namespace Unilateral

variable {κ α : Type} [Unilateral κ α]

/-- The value of the contact's multiplier. -/
def multiplier (c : κ) (s : State α) : Except (Fault α) (Option α) :=
  return s.multiplierAt? (← multiplierHandle c s)

/-- Plane coordinates of the contact point, for contacts that can stick. -/
def contactCoordinates [Scalar α] (c : κ) (s : State α) : Except (Fault α) (Option (Vec3 α)) :=
  (sticking? c).mapM (·.contactCoordinates s)

def restitutionBy (c : κ) (s : State α) (t : Thresholds α) (impact : α) : Except (Fault α) α :=
  restitution c s t.range impact

def frictionBy (c : κ) (s : State α) (t : Thresholds α) (slip : α) : Except (Fault α) (Option α) :=
  friction c s t.transition slip

variable [Scalar α]

/-- Whether the contact is open by no more than `margin`. -/
def isProximal (c : κ) (s : State α) (margin : α) : Except (Fault α) Bool :=
  return (sense c).apply (← positionError c s) ≤ margin

/-- The speed at which the contact opens. -/
def separationSpeed (c : κ) (s : State α) : Except (Fault α) α :=
  return (sense c).apply (← velocityError c s)

/-- Looks for a violated condition. An open contact satisfies all, and so does one that
is opening; of a closed contact at rest the acceleration, the force and their product
are looked at. Each comparison leaves room for `tol`. -/
def violation (c : κ) (s : State α) (tol : α) : Except (Fault α) (Option Violation) := do
  let sense := sense c
  let p := sense.apply (← positionError c s)
  if p < -tol then return some .penetration
  else if tol < p then return none
  else
    let v := sense.apply (← velocityError c s)
    if v < -tol then return some .approach
    else if tol < v then return none
    else
      let a ← accelerationError c s
      let force := (← multiplier c s).getD 0
      if sense.apply a < -tol then return some .acceleration
      else if -sense.apply force < -tol then return some .attraction
      else if tol < Scalar.abs (a * force) then return some .complementarity
      else return none

def satisfies (c : κ) (s : State α) (tol : α) : Except (Fault α) Bool :=
  return (← violation c s tol).isNone

end Unilateral

end OneSided
