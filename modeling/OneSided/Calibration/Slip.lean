import OneSided.Fault

/-! Dry friction. Up to the transition speed the static coefficient counts, beyond it
the dynamic one, and a viscous part grows with the slip speed. -/

namespace OneSided

variable {α : Type} [Scalar α]

/-- The coefficient of friction at slip speed `slip`. -/
def dryFriction (static dynamic viscous transition slip : α) : Except (Fault α) α :=
  if ¬(0 ≤ static ∧ 0 ≤ dynamic ∧ 0 ≤ viscous) then
    .error (.frictionCoefficient static dynamic viscous)
  else if ¬dynamic ≤ static then .error (.staticBelowDynamic static dynamic)
  else if ¬(0 ≤ transition ∧ 0 ≤ slip) then .error (.slipSpeed transition slip)
  else .ok (viscous * slip + if slip ≤ transition then static else dynamic)

/-- How an element slips. Without a transition speed of its own it takes the caller's. -/
structure DryFriction (α : Type) where
  static : α
  dynamic : α
  viscous : α
  transition : Option α

namespace DryFriction

def checkCoefficient (of : Quantity) (x : α) : Except (Rejection α) Unit :=
  if Scalar.isFinite x ∧ ¬x < 0 then .ok () else .error (.frictionCoefficient of x)

def make (static dynamic viscous : α) : Except (Rejection α) (DryFriction α) := do
  checkCoefficient .staticCoefficient static
  checkCoefficient .dynamicCoefficient dynamic
  checkCoefficient .viscousCoefficient viscous
  if static < dynamic then .error (.staticBelowDynamic static dynamic)
  else .ok ⟨static, dynamic, viscous, none⟩

def frictionless : DryFriction α := ⟨0, 0, 0, none⟩

def withTransition (f : DryFriction α) (speed : α) : Except (Rejection α) (DryFriction α) := do
  checkSpeed .transitionSpeed speed
  .ok { f with transition := some speed }

/-- The coefficient at a slip speed, given the transition speed to use in the absence
of one. -/
def coefficient (f : DryFriction α) (default slip : α) : Except (Fault α) α :=
  dryFriction f.static f.dynamic f.viscous (f.transition.getD default) slip

end DryFriction

end OneSided
