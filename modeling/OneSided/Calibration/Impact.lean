import OneSided.Fault

/-! Restitution of impacts. An impact at or below the capture speed does not rebound.
Above it the coefficient falls along a line that starts at one for an impact without
speed and reaches the least coefficient at the plateau speed, where it stays. -/

namespace OneSided

variable {α : Type} [Scalar α]

/-- The coefficient of restitution of an impact at speed `impact`. -/
def restitution (least capture plateau impact : α) : Except (Fault α) α :=
  if ¬(0 ≤ least ∧ least ≤ 1) then .error (.leastRestitution least)
  else if ¬(0 ≤ capture ∧ capture ≤ plateau) then .error (.captureSpeed capture plateau)
  else if ¬0 ≤ impact then .error (.impactSpeed impact)
  else if impact ≤ capture then .ok 0
  else if plateau ≤ impact then .ok least
  else .ok (1 - (1 - least) / plateau * impact)

/-- The speeds between which the coefficient falls. -/
structure ImpactRange (α : Type) where
  capture : α
  plateau : α

/-- How an element rebounds. Without a range of its own it takes the caller's. -/
structure Restitution (α : Type) where
  least : α
  range : Option (ImpactRange α)

namespace ImpactRange

def make (capture plateau : α) : Except (Rejection α) (ImpactRange α) := do
  checkSpeed .captureSpeed capture
  checkSpeed .plateauSpeed plateau
  if plateau < capture then .error (.captureSpeed capture plateau) else .ok ⟨capture, plateau⟩

end ImpactRange

namespace Restitution

def make (least : α) : Except (Rejection α) (Restitution α) :=
  if 0 ≤ least ∧ least ≤ 1 then .ok ⟨least, none⟩ else .error (.leastRestitution least)

/-- The calibration whose least coefficient is zero. -/
def plastic : Restitution α := ⟨0, none⟩

def withRange (r : Restitution α) (range : ImpactRange α) : Restitution α :=
  { r with range := some range }

/-- The coefficient for an impact, given the range to use in the absence of one. -/
def coefficient (r : Restitution α) (default : ImpactRange α) (impact : α) : Except (Fault α) α :=
  let range := r.range.getD default
  restitution r.least range.capture range.plateau impact

end Restitution

end OneSided
