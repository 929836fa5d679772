import OneSided.Handle
import OneSided.Scalar

/-! Stored values. A document is a tree of the usual shape; a type is stored through a
way to write it as such a tree and a way to read one. Nothing is checked on reading but
the shape: a record is found by the names of its parts, whatever else it holds, or given
as the list of its parts in order. The parts of one case of several always have names. -/

namespace OneSided

inductive Document (α : Type) where
  | null
  | bool (b : Bool)
  | int (n : Int)
  | real (x : α)
  | text (s : String)
  | list (items : List (Document α))
  | record (fields : List (String × Document α))
deriving Inhabited

/-- Values of `τ` are stored in documents over `α`. -/
class Stored (τ α : Type) where
  encode : τ → Document α
  decode : Document α → Option τ

namespace Document

variable {α β τ : Type}

mutual

/-- Puts a document in the place of each real. -/
def bind (f : α → Document β) : Document α → Document β
  | null => null
  | bool b => bool b
  | int n => int n
  | real x => f x
  | text s => text s
  | list items => list (bindItems f items)
  | record fields => record (bindFields f fields)

def bindItems (f : α → Document β) : List (Document α) → List (Document β)
  | [] => []
  | d :: ds => bind f d :: bindItems f ds

def bindFields (f : α → Document β) : List (String × Document α) → List (String × Document β)
  | [] => []
  | (name, d) :: fields => (name, bind f d) :: bindFields f fields

end

/-- The parts of a record in the order of `names`. A part may be missing from a record
with names, but not from a list. -/
def parts (names : List String) : Document α → Option (List (Option (Document α)))
  | record fields => some (names.map fun n => fields.lookup n)
  | list items => if items.length = names.length then some (items.map some) else none
  | _ => none

/-- A part that must be there. -/
def required [Stored τ α] : Option (Document α) → Option τ
  | some d => Stored.decode d
  | none => none

/-- A part that may be missing or null. -/
def perhaps [Stored τ α] : Option (Document α) → Option (Option τ)
  | none => some none
  | some null => some none
  | some d => (Stored.decode d).map some

def ofOption [Stored τ α] : Option τ → Document α
  | none => null
  | some x => Stored.encode x

/-- A whole number below a limit. -/
def decodeNat (limit : Nat) : Document α → Option Nat
  | int n => if 0 ≤ n ∧ n < limit then some n.toNat else none
  | _ => none

/-- The name of a case without parts: alone, or as the one field of a record, with null. -/
def caseName : Document α → Option String
  | text s => some s
  | record [(s, null)] => some s
  | _ => none

/-- A name together with the parts of that case, which are always given by name. -/
def caseParts : Document α → Option (String × Document α)
  | record [(s, record fields)] => some (s, record fields)
  | _ => none

end Document

/-! ### Numbers and handles -/

section
variable {α : Type} [Scalar α]

/-- A number that is not finite is written as null, and cannot be read back. -/
instance : Stored α α where
  encode x := if Scalar.isFinite x then .real x else .null
  decode
    | .real x => some x
    | .int n => some (Scalar.ofInt n)
    | _ => none

end

/-- Counts and places are words of the machine. -/
instance {α : Type} : Stored Nat α where
  encode n := .int n
  decode := Document.decodeNat UInt64.size

instance {α : Type} {k : Kind} : Stored (Handle k) α where
  encode h := .int h.toNat
  decode d := (d.decodeNat UInt32.size).map Handle.ofNat

end OneSided
