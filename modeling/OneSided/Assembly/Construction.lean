import OneSided.Assembly.Topology

/-! Constructors at work on a topology. A constructor checks its arguments and registers
a constraint, one step after the other. A step that fails ends it, and what was
registered before that step stays registered. -/

namespace OneSided

/-- A constructor of a `κ`. -/
abbrev Construction (α κ : Type) := ExceptT (Rejection α) (StateM Topology) κ

namespace Construction

variable {α κ : Type}

/-- Registers a constraint with `size` multipliers. -/
def register (size : Nat) : Construction α (Handle .constraint) :=
  modifyGet fun t => t.addConstraint size

/-- What a constructor answers, and the topology that it leaves, whether it fails or not. -/
def on (c : Construction α κ) (t : Topology) : Except (Rejection α) κ × Topology :=
  c.run.run t

/-- The answer together with the topology of a constructor that does not fail. -/
def complete (c : Construction α κ) (t : Topology) : Except (Rejection α) (κ × Topology) :=
  (c.on t).1.map fun x => (x, (c.on t).2)

end Construction

end OneSided
