import OneSided.Assembly.Mobilizer

/-! The bodies and constraints of an assembly. Bodies share the coordinate arrays in
the order in which they were added, constraints the multipliers in the order in which
they were registered. A new state has every constraint disabled. -/

namespace OneSided

structure Topology where
  /-- The ground comes first. -/
  bodies : List Mobilizer
  /-- The length of the coordinate arrays. -/
  coordinates : Nat
  /-- How many multipliers each constraint takes. -/
  sizes : List Nat
deriving DecidableEq

namespace Topology

variable {α : Type}

/-- The ground alone. -/
def empty : Topology := ⟨[⟨Handle.ground, 0, 0⟩], 0, []⟩

def body? (t : Topology) (b : Handle .body) : Option Mobilizer := t.bodies[b.toNat]?

def addBody (t : Topology) (count : Nat) : Mobilizer × Topology :=
  let m : Mobilizer := ⟨Handle.ofNat t.bodies.length, t.coordinates, count⟩
  (m, { t with bodies := t.bodies ++ [m], coordinates := t.coordinates + count })

def addConstraint (t : Topology) (size : Nat) : Handle .constraint × Topology :=
  (Handle.ofNat t.sizes.length, { t with sizes := t.sizes ++ [size] })

/-- A new state: everything at rest at time zero, modelled but not yet computed. -/
def allocate [Scalar α] (t : Topology) : State α where
  time := 0
  q := List.replicate t.coordinates 0
  u := List.replicate t.coordinates 0
  udot := List.replicate t.coordinates 0
  motions := List.replicate t.bodies.length (Motion.atRest Pose.id)
  slots := t.sizes.map fun size => ⟨size, false, none⟩
  multipliers := []
  stale := false
  stage := .model

/-- Whether the arrays of a state have the lengths that this topology asks for. -/
def matchesState (t : Topology) (s : State α) : Bool :=
  s.q.length = t.coordinates ∧ s.motions.length = t.bodies.length ∧ s.slots.length = t.sizes.length

/-- Computes a state up to a stage. On the way to the positions stale multipliers are
laid out anew. A state that has come further stays as it is. -/
def realize [Scalar α] (t : Topology) (s : State α) (stage : Stage) : Outcome α Unit :=
  if t.matchesState s then
    let lays : Bool := .position ≤ stage ∧ s.stage < .position
    let s := if lays then s.assignMultipliers else s
    let notices := if lays then [.multipliersAssigned s.multipliers.length s.time] else []
    ⟨if s.stage < stage then { s with stage := stage } else s, .ok (), notices⟩
  else ⟨s, .error .topology, []⟩

end Topology

end OneSided
