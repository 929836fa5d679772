import OneSided.Scalar

/-! Why a calibration is refused when a model is put together. -/

namespace OneSided

/-- The quantities that a calibration gives values to. -/
inductive Quantity where
  | captureSpeed
  | plateauSpeed
  | transitionSpeed
  | defaultCaptureSpeed
  | defaultPlateauSpeed
  | defaultTransitionSpeed
  | targetSpeed
  | noLoadSpeed
  | staticCoefficient
  | dynamicCoefficient
  | viscousCoefficient
  | coordinateLimit
  | planeHeight
  | sphereRadius
  | normalForce
  | maximumTorque
deriving DecidableEq

def Quantity.text : Quantity → String
  | captureSpeed => "capture speed"
  | plateauSpeed => "minimum COR speed"
  | transitionSpeed => "transition speed"
  | defaultCaptureSpeed => "default capture speed"
  | defaultPlateauSpeed => "default minimum COR speed"
  | defaultTransitionSpeed => "default transition speed"
  | targetSpeed => "target speed"
  | noLoadSpeed => "no-load speed"
  | staticCoefficient => "mu_s"
  | dynamicCoefficient => "mu_d"
  | viscousCoefficient => "mu_v"
  | coordinateLimit => "coordinate limit"
  | planeHeight => "plane height"
  | sphereRadius => "sphere radius"
  | normalForce => "normal force"
  | maximumTorque => "maximum torque"

inductive Rejection (α : Type) where
  | sense (found : Int)
  | leastRestitution (found : α)
  | captureSpeed (capture plateau : α)
  | speed (of : Quantity) (found : α)
  | frictionCoefficient (of : Quantity) (found : α)
  | staticBelowDynamic (static dynamic : α)
  | length (of : Quantity) (found : α)
  | coordinate (which count : Nat)
  | forceLimit (of : Quantity) (found : α)

namespace Rejection

variable {α : Type}

def message [Legible α] : Rejection α → String
  | sense found => "the sign convention must be 1 or -1, found " ++ toString found ++ "."
  | leastRestitution found =>
    "the minimum coefficient of restitution must lie in [0, 1], found " ++ Legible.text found ++ "."
  | captureSpeed capture plateau =>
    "the capture speed " ++ Legible.text capture ++ " must lie in [0, " ++ Legible.text plateau
      ++ "]."
  | speed of found =>
    "the " ++ of.text ++ " must be a finite nonnegative speed, found " ++ Legible.text found ++ "."
  | frictionCoefficient of found =>
    "the friction coefficient " ++ of.text ++ " must be finite and nonnegative, found "
      ++ Legible.text found ++ "."
  | staticBelowDynamic static dynamic =>
    "the static friction coefficient " ++ Legible.text static
      ++ " is smaller than the dynamic one " ++ Legible.text dynamic ++ "."
  | length of found =>
    "the " ++ of.text ++ " must be finite (and nonnegative if it is a radius), found "
      ++ Legible.text found ++ "."
  | coordinate which count =>
    "the mobilizer has " ++ toString count ++ " coordinates, coordinate " ++ toString which
      ++ " does not exist."
  | forceLimit of found =>
    "the " ++ of.text ++ " must be finite and nonnegative, found " ++ Legible.text found ++ "."

end Rejection

/-! ### Checks -/

variable {α : Type} [Scalar α]

/-- A speed in a calibration is finite and at least zero. -/
def checkSpeed (of : Quantity) (x : α) : Except (Rejection α) Unit :=
  if Scalar.isFinite x ∧ 0 ≤ x then .ok () else .error (.speed of x)

/-- A force limit is finite and at least zero. -/
def checkForceLimit (of : Quantity) (x : α) : Except (Rejection α) Unit :=
  if Scalar.isFinite x ∧ 0 ≤ x then .ok () else .error (.forceLimit of x)

/-- A place on a line is finite. -/
def checkPlace (of : Quantity) (x : α) : Except (Rejection α) Unit :=
  if Scalar.isFinite x then .ok () else .error (.length of x)

/-- A radius is finite and at least zero. -/
def checkRadius (x : α) : Except (Rejection α) Unit :=
  if Scalar.isFinite x ∧ 0 ≤ x then .ok () else .error (.length .sphereRadius x)

end OneSided
