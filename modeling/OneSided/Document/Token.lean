import OneSided.Decimal.Reading
import OneSided.Document.Basic

/-! The pieces that the text of a document is made of: brackets, separators and leaves,
with blanks between them. Numbers in a text are of double precision. A scan goes through
the text one character at a time. -/

namespace OneSided

inductive Token (α : Type) where
  | openList
  | closeList
  | openRecord
  | closeRecord
  | comma
  | colon
  /-- A document without parts. -/
  | leaf (d : Document α)

namespace Token

/-! ### Words -/

/-- The numbers that a word of 64 bits holds, with a sign or without. -/
def fitsWord (n : Int) : Bool := Int64.minValue.toInt ≤ n ∧ n < UInt64.size

/-- The number nearest to `± digits · 10 ^ scale`, unless it is beyond the range. -/
def real? (negative : Bool) (digits : Nat) (scale : Int) : Option Float :=
  let x : Float := OfScientific.ofScientific digits (scale < 0) scale.natAbs
  if x.isFinite then some (if negative then -x else x) else none

/-- A number is whole if it has neither a point nor an exponent and fits a word. All others are
real, among them `-0`, which keeps its sign. -/
def number? (w : List Char) : Option (Document Float) :=
  match Numeral.ofText? w with
  | some (.finite negative digits scale) =>
    let n : Int := if negative then -(digits : Int) else digits
    let bare := w.all fun c => c.isDigit || c = '-'
    if bare && fitsWord n && !(negative && digits = 0) then some (.int n)
    else (real? negative digits scale).map .real
  | _ => none

/-- The leaf that a word without quotes stands for. -/
def word? (w : List Char) : Option (Document Float) :=
  match String.ofList w with
  | "null" => some .null
  | "true" => some (.bool true)
  | "false" => some (.bool false)
  | _ => number? w

/-! ### Quoted texts -/

def isHighSurrogate (u : Nat) : Bool := 0xD800 ≤ u ∧ u < 0xDC00

def isLowSurrogate (u : Nat) : Bool := 0xDC00 ≤ u ∧ u < 0xE000

/-- Puts characters together: two surrogates in a row are one character, and no surrogate
stands alone. -/
def joinUnits : List Nat → Option (List Char)
  | [] => some []
  | u :: us =>
    if isHighSurrogate u then
      match us with
      | [] => none
      | v :: us =>
        if isLowSurrogate v then
          (joinUnits us).map (Char.ofNat (0x10000 + (u - 0xD800) * 0x400 + (v - 0xDC00)) :: ·)
        else none
    else if isLowSurrogate u then none
    else (joinUnits us).map (Char.ofNat u :: ·)

/-- What a character stands for behind a backslash. -/
def escaped? : Char → Option Char
  | '"' => some '"'
  | '\\' => some '\\'
  | '/' => some '/'
  | 'b' => some '\x08'
  | 'f' => some '\x0c'
  | 'n' => some '\n'
  | 'r' => some '\r'
  | 't' => some '\t'
  | _ => none

def hexDigit? (c : Char) : Option Nat := "0123456789abcdef".toList.idxOf? c.toLower

/-! ### The scan -/

/-- Where a scan stands. What is known of a word or of a quoted text is held last first. -/
inductive Place where
  | between
  | word (cs : List Char)
  | quoted (units : List Nat)
  /-- Behind a backslash. -/
  | escape (units : List Nat)
  /-- Inside a unit given by hexadecimal digits, of which `left` are to come. -/
  | hex (units : List Nat) (value left : Nat)

/-- The pieces found so far, last first, and the place that is reached. -/
structure Scan where
  found : List (Token Float)
  place : Place

def mark? : Char → Option (Token Float)
  | '[' => some openList
  | ']' => some closeList
  | '\x7b' => some openRecord
  | '\x7d' => some closeRecord
  | ',' => some comma
  | ':' => some colon
  | _ => none

def isBlank (c : Char) : Bool := c = ' ' || c = '\t' || c = '\n' || c = '\r'

def inWord (c : Char) : Bool := c.isAlphanum || c = '-' || c = '+' || c = '.'

namespace Scan

/-- A character between two pieces. -/
def begin? (found : List (Token Float)) (c : Char) : Option Scan :=
  if isBlank c then some ⟨found, .between⟩
  else if c = '"' then some ⟨found, .quoted []⟩
  else if inWord c then some ⟨found, .word [c]⟩
  else (mark? c).map fun t => ⟨t :: found, .between⟩

def step? (s : Scan) (c : Char) : Option Scan :=
  match s.place with
  | .between => begin? s.found c
  | .word cs =>
    if inWord c then some ⟨s.found, .word (c :: cs)⟩
    else do begin? (.leaf (← word? cs.reverse) :: s.found) c
  | .quoted us =>
    if c = '"' then do
      return ⟨.leaf (.text (String.ofList (← joinUnits us.reverse))) :: s.found, .between⟩
    else if c = '\\' then some ⟨s.found, .escape us⟩
    else if c < ' ' then none
    else some ⟨s.found, .quoted (c.toNat :: us)⟩
  | .escape us =>
    if c = 'u' then some ⟨s.found, .hex us 0 4⟩
    else (escaped? c).map fun e => ⟨s.found, .quoted (e.toNat :: us)⟩
  | .hex us value left => do
    let value := 16 * value + (← hexDigit? c)
    return ⟨s.found, if left = 1 then .quoted (value :: us) else .hex us value (left - 1)⟩

end Scan

/-- The pieces of a text. A blank is read behind its end, which closes a last word. -/
def ofText? (text : String) : Option (List (Token Float)) := do
  let s ← (text.toList ++ [' ']).foldlM Scan.step? ⟨[], .between⟩
  match s.place with
  | .between => return s.found.reverse
  | _ => none

end Token

end OneSided
