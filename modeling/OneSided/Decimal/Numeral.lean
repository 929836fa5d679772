/-! Numbers as written. A numeral is a whole number of digits times a power of ten,
or one of the values that have no digits. Two layouts are used: the plain one of
messages and the telling one of debug texts. The plain layout has no exponent at
all; the telling layout marks every whole number with `.0` and leaves positional
notation outside `[10⁻⁴, 10¹⁶)`. -/

namespace OneSided

/-- `finite neg digits scale` stands for `± digits · 10 ^ scale`. -/
inductive Numeral where
  | nan
  | infinite (negative : Bool)
  | finite (negative : Bool) (digits : Nat) (scale : Int)
deriving DecidableEq

namespace Numeral

def signText (negative : Bool) : String := if negative then "-" else ""

def zeros (n : Nat) : List Char := List.replicate n '0'

/-- Positional notation of `digits · 10 ^ scale`; a whole number is followed by `tail`. -/
def positional (digits : Nat) (scale : Int) (tail : String) : String :=
  let ds := (toString digits).toList
  if digits = 0 then "0" ++ tail
  else if 0 ≤ scale then String.ofList (ds ++ zeros scale.toNat) ++ tail
  else
    let places := (-scale).toNat
    if places < ds.length then
      String.ofList (ds.take (ds.length - places) ++ '.' :: ds.drop (ds.length - places))
    else String.ofList ('0' :: '.' :: zeros (places - ds.length) ++ ds)

/-- Scientific notation: one digit before the point, no point after a single digit. -/
def scientific (digits : Nat) (scale : Int) : String :=
  match (toString digits).toList with
  | [] => ""
  | d :: ds =>
    let mantissa := if ds.isEmpty then [d] else d :: '.' :: ds
    String.ofList mantissa ++ "e" ++ toString (scale + ds.length)

/-- The power of ten of the leading digit. -/
def leading (digits : Nat) (scale : Int) : Int := scale + (toString digits).length - 1

/-- The layout of messages: never an exponent, whole numbers bare. -/
def plain : Numeral → String
  | nan => "NaN"
  | infinite neg => signText neg ++ "inf"
  | finite neg ds e => signText neg ++ positional ds e ""

/-- The layout of debug texts: whole numbers keep `.0`, and magnitudes below `10⁻⁴`
or from `10¹⁶` on are scientific. -/
def telling : Numeral → String
  | nan => "NaN"
  | infinite neg => signText neg ++ "inf"
  | finite neg ds e =>
    signText neg ++
      if ds ≠ 0 ∧ (leading ds e < -4 ∨ 16 ≤ leading ds e) then scientific ds e
      else positional ds e ".0"

end Numeral

end OneSided
