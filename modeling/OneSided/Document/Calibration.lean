import OneSided.Calibration.Slip
import OneSided.Calibration.Thresholds
import OneSided.Contact.Sense
import OneSided.Document.Basic
import OneSided.Drive.Bounded

/-! How calibrations, thresholds and the small enumerations are stored. -/

namespace OneSided

open Document Stored

variable {α : Type} [Scalar α]

instance : Stored (ImpactRange α) α where
  encode r := .record [("capture_speed", encode r.capture), ("min_cor_speed", encode r.plateau)]
  decode d := do
    match ← d.parts ["capture_speed", "min_cor_speed"] with
    | [c, p] => some ⟨← required c, ← required p⟩
    | _ => none

instance : Stored (Restitution α) α where
  encode r := .record [("min_cor", encode r.least), ("speeds", ofOption r.range)]
  decode d := do
    match ← d.parts ["min_cor", "speeds"] with
    | [l, r] => some ⟨← required l, ← perhaps r⟩
    | _ => none

instance : Stored (DryFriction α) α where
  encode f := .record [("mu_s", encode f.static), ("mu_d", encode f.dynamic),
    ("mu_v", encode f.viscous), ("transition_speed", ofOption f.transition)]
  decode d := do
    match ← d.parts ["mu_s", "mu_d", "mu_v", "transition_speed"] with
    | [s, d, v, t] => some ⟨← required s, ← required d, ← required v, ← perhaps t⟩
    | _ => none

instance : Stored (Thresholds α) α where
  encode t := .record [("capture_speed", encode t.capture), ("min_cor_speed", encode t.plateau),
    ("transition_speed", encode t.transition)]
  decode d := do
    match ← d.parts ["capture_speed", "min_cor_speed", "transition_speed"] with
    | [c, p, t] => some ⟨← required c, ← required p, ← required t⟩
    | _ => none

instance {β : Type} : Stored Sense β where
  encode
    | .positive => .text "Positive"
    | .negative => .text "Negative"
  decode d :=
    match d.caseName with
    | some "Positive" => some .positive
    | some "Negative" => some .negative
    | _ => none

/-- Stages are stored by name. -/
def Stage.ofName? : String → Option Stage
  | "Topology" => some .topology
  | "Model" => some .model
  | "Position" => some .position
  | "Velocity" => some .velocity
  | "Acceleration" => some .acceleration
  | _ => none

instance {β : Type} : Stored Stage β where
  encode s := .text s.name
  decode d := d.caseName.bind Stage.ofName?

/-- A regime by the name of its case. -/
def Regime.ofName? (x : α) : String → Option (Regime α)
  | "Holding" => some (.holding x)
  | "SlippingAtLower" => some (.slippingAtLower x)
  | "SlippingAtUpper" => some (.slippingAtUpper x)
  | _ => none

instance : Stored (Regime α) α where
  encode r := .record [(r.name, .record [("reaction", encode r.reaction)])]
  decode d := do
    let (name, d) ← d.caseParts
    match ← d.parts ["reaction"] with
    | [r] => Regime.ofName? (← required r) name
    | _ => none

end OneSided
