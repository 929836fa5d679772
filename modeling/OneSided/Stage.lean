/-! How far a state has been computed. The stages are passed in order, and a change of
the state takes it back to the stage before the first one that depends on what changed. -/

namespace OneSided

inductive Stage where
  | topology
  | model
  | position
  | velocity
  | acceleration
deriving DecidableEq

namespace Stage

def rank : Stage → Nat
  | topology => 0
  | model => 1
  | position => 2
  | velocity => 3
  | acceleration => 4

instance : LE Stage := ⟨fun a b => a.rank ≤ b.rank⟩

instance : LT Stage := ⟨fun a b => a.rank < b.rank⟩

instance (a b : Stage) : Decidable (a ≤ b) := inferInstanceAs (Decidable (a.rank ≤ b.rank))

instance (a b : Stage) : Decidable (a < b) := inferInstanceAs (Decidable (a.rank < b.rank))

/-- The stage before; nothing comes before the first one. -/
def prev : Stage → Stage
  | topology => topology
  | model => topology
  | position => model
  | velocity => position
  | acceleration => velocity

/-- What is left of stage `s` once `first` no longer holds. -/
def invalidate (s first : Stage) : Stage := if first ≤ s then first.prev else s

def name : Stage → String
  | topology => "Topology"
  | model => "Model"
  | position => "Position"
  | velocity => "Velocity"
  | acceleration => "Acceleration"

theorem le_def {a b : Stage} : a ≤ b ↔ a.rank ≤ b.rank := Iff.rfl

theorem lt_def {a b : Stage} : a < b ↔ a.rank < b.rank := Iff.rfl

theorem rank_injective {a b : Stage} (h : a.rank = b.rank) : a = b := by
  cases a <;> cases b <;> simp_all [rank]

end Stage

end OneSided
