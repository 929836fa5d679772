import OneSided.Decimal.Numeral

/-! Numerals read from text. A numeral starts with its whole digits, without idle zeros
in front; a sign, a fraction and a power of ten may be there. -/

namespace OneSided.Numeral

/-- The number that decimal digits stand for. -/
def ofDigits (ds : List Char) : Nat := ds.foldl (fun n d => 10 * n + (d.toNat - '0'.toNat)) 0

/-- At least one digit, and a zero in front only alone. -/
def wholeDigits : List Char → Bool
  | [] => false
  | ['0'] => true
  | d :: _ => d ≠ '0'

/-- The digits behind a point, and what follows them. Without a point there are none. -/
def fraction? : List Char → Option (List Char × List Char)
  | '.' :: cs =>
    let (ds, cs) := cs.span Char.isDigit
    if ds.isEmpty then none else some (ds, cs)
  | cs => some ([], cs)

def exponentDigits? (ds : List Char) : Option Nat :=
  if !ds.isEmpty && ds.all Char.isDigit then some (ofDigits ds) else none

/-- The power of ten that ends a numeral, which is zero if nothing is there. -/
def power? : List Char → Option Int
  | [] => some 0
  | e :: cs =>
    if e = 'e' ∨ e = 'E' then
      match cs with
      | '-' :: ds => (exponentDigits? ds).map fun n => -(n : Int)
      | '+' :: ds => (exponentDigits? ds).map Int.ofNat
      | ds => (exponentDigits? ds).map Int.ofNat
    else none

/-- The numeral that is written, digit for digit. -/
def ofText? (cs : List Char) : Option Numeral := do
  let (negative, cs) := match cs with
    | '-' :: cs => (true, cs)
    | cs => (false, cs)
  let (whole, cs) := cs.span Char.isDigit
  guard (wholeDigits whole)
  let (fraction, cs) ← fraction? cs
  let power ← power? cs
  return finite negative (ofDigits (whole ++ fraction)) (power - fraction.length)

end OneSided.Numeral
