import OneSided.Decimal.Shortest

/-! The numbers that everything is measured in. All laws and measures are written
over an abstract scalar, so that one definition serves both machine precisions and
exact arithmetic. Comparisons are the scalar's own: a value that is not a number
fails each of them. Scalars that can be shown in messages have a numeral. -/

namespace OneSided

class Scalar (α : Type) extends Add α, Sub α, Mul α, Div α, Neg α, Zero α, One α, LT α, LE α,
    OfScientific α where
  decidableLT : DecidableLT α
  decidableLE : DecidableLE α
  ofInt : Int → α
  isFinite : α → Bool
  abs : α → α
  sqrt : α → α
  sin : α → α
  cos : α → α
  acos : α → α
  pi : α
  /-- The distance from one to the next larger scalar. -/
  epsilon : α

section
variable {α : Type} [Scalar α]

instance decidableLTOfScalar : DecidableLT α := Scalar.decidableLT

instance decidableLEOfScalar : DecidableLE α := Scalar.decidableLE

end

/-- Scalars with a written form. -/
class Legible (α : Type) where
  numeral : α → Numeral

/-- The text of a scalar in messages. -/
def Legible.text {α : Type} [Legible α] (x : α) : String := (numeral x).plain

instance : Scalar Float where
  zero := 0
  one := 1
  decidableLT := inferInstance
  decidableLE := inferInstance
  ofInt := Float.ofInt
  isFinite := Float.isFinite
  abs := Float.abs
  sqrt := Float.sqrt
  sin := Float.sin
  cos := Float.cos
  acos := Float.acos
  pi := 3.14159265358979323846
  epsilon := 2.220446049250313e-16

instance : Scalar Float32 where
  zero := 0
  one := 1
  decidableLT := inferInstance
  decidableLE := inferInstance
  ofInt := Float32.ofInt
  isFinite := Float32.isFinite
  abs := Float32.abs
  sqrt := Float32.sqrt
  sin := Float32.sin
  cos := Float32.cos
  acos := Float32.acos
  pi := 3.14159265358979323846
  epsilon := 1.1920929e-7

instance : Legible Float where
  numeral x := BinaryFormat.binary64.numeral x.toBits.toNat

instance : Legible Float32 where
  numeral x := BinaryFormat.binary32.numeral x.toBits.toNat

end OneSided
