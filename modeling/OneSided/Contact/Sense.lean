import OneSided.Calibration.Rejection

/-! The sense of a contact: the direction of its error in which it opens. -/

namespace OneSided

inductive Sense where
  | positive
  | negative
deriving DecidableEq

namespace Sense

/-- Errors open a contact upwards unless said otherwise. -/
instance : Inhabited Sense := ⟨positive⟩

def ofInt {α : Type} : Int → Except (Rejection α) Sense
  | 1 => .ok positive
  | -1 => .ok negative
  | n => .error (.sense n)

def toInt : Sense → Int
  | positive => 1
  | negative => -1

variable {α : Type} [Scalar α]

def toScalar (s : Sense) : α := Scalar.ofInt s.toInt

/-- A value counted in the direction of the sense. -/
def apply : Sense → α → α
  | positive, x => x
  | negative, x => -x

end Sense

end OneSided
