import OneSided.State.Basic

/-! A body together with its share of the coordinate arrays: `count` consecutive
entries from `first` on, the same places for coordinates, speeds and their rates. -/

namespace OneSided

structure Mobilizer where
  handle : Handle .body
  first : Nat
  count : Nat
deriving DecidableEq

namespace Mobilizer

variable {α : Type}

def isGround (m : Mobilizer) : Bool := m.handle = Handle.ground

/-- The place of coordinate `which` of the body in the coordinate arrays. -/
def place (m : Mobilizer) (which : Nat) : Except (Rejection α) Nat :=
  if which < m.count then .ok (m.first + which) else .error (.coordinate which m.count)

/-- The place of a coordinate that the caller vouches for. -/
def knownPlace (m : Mobilizer) (which : Nat) : Except (Fault α) Nat :=
  (m.place which).mapError .rejected

def coordinate (m : Mobilizer) (s : State α) (which : Nat) : Except (Fault α) α := do
  s.coordinate (← m.knownPlace which)

def speed (m : Mobilizer) (s : State α) (which : Nat) : Except (Fault α) α := do
  s.speed (← m.knownPlace which)

def rate (m : Mobilizer) (s : State α) (which : Nat) : Except (Fault α) α := do
  s.rate (← m.knownPlace which)

def motion (m : Mobilizer) (s : State α) : Except (Fault α) (Motion α) := s.motion m.handle

/-- Where the origin of the body lies. -/
def origin (m : Mobilizer) (s : State α) : Except (Fault α) (Vec3 α) :=
  return (← m.motion s).origin

end Mobilizer

end OneSided
