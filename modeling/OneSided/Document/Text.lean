import OneSided.Document.Token

/-! Documents as text. Reading goes through the pieces of the text and keeps the lists and
records that are still open. It gives a document of double precision, whatever is to be
read from that. -/

namespace OneSided.Document

variable {α : Type}

/-! ### Writing -/

section
variable [Legible α]

/-- The way a character is written inside quotes. -/
def quotedChar (c : Char) : String :=
  if c = '"' then "\\\""
  else if c = '\\' then "\\\\"
  else if c < ' ' then
    "\\u" ++ String.ofList ['0', '0', Nat.digitChar (c.toNat / 16), Nat.digitChar (c.toNat % 16)]
  else String.singleton c

def quotedText (s : String) : String :=
  "\"" ++ String.join (s.toList.map quotedChar) ++ "\""

/-- A number that is not finite has no written form, and null stands for it. -/
def realText (x : α) : String :=
  match Legible.numeral x with
  | .finite negative digits scale => (Numeral.finite negative digits scale).telling
  | _ => "null"

mutual

def toText : Document α → String
  | null => "null"
  | bool b => if b then "true" else "false"
  | int n => toString n
  | real x => realText x
  | text s => quotedText s
  | list items => "[" ++ ",".intercalate (itemTexts items) ++ "]"
  | record fields => "\x7b" ++ ",".intercalate (fieldTexts fields) ++ "\x7d"

def itemTexts : List (Document α) → List String
  | [] => []
  | d :: ds => toText d :: itemTexts ds

def fieldTexts : List (String × Document α) → List String
  | [] => []
  | (name, d) :: fields => (quotedText name ++ ":" ++ toText d) :: fieldTexts fields

end

end

/-! ### Reading -/

/-- A list or record that is still open, with what it holds so far, last first. The next
document in a record gets the name. -/
inductive Frame (α : Type) where
  | list (items : List (Document α))
  | record (fields : List (String × Document α)) (name : String)

/-- What must come next. -/
inductive Awaited (α : Type) where
  /-- A document, or the end of the list if it may still be empty. -/
  | item (mayClose : Bool)
  /-- The name of the next part of a record, or its end if it may still be empty. -/
  | name (fields : List (String × Document α)) (mayClose : Bool)
  | colon (fields : List (String × Document α)) (name : String)
  /-- What may follow a document. -/
  | separator (d : Document α)

/-- The open lists and records, innermost first, and what must come next. -/
structure Reader (α : Type) where
  frames : List (Frame α)
  awaited : Awaited α

/-- A later part takes the place of an earlier one of the same name. -/
def addField (fields : List (String × Document α)) (name : String) (d : Document α) :
    List (String × Document α) :=
  (name, d) :: fields.filter fun f => f.1 ≠ name

namespace Reader

def step? (r : Reader α) (t : Token α) : Option (Reader α) :=
  match r.awaited, t with
  | .item _, .leaf d => some ⟨r.frames, .separator d⟩
  | .item _, .openList => some ⟨.list [] :: r.frames, .item true⟩
  | .item _, .openRecord => some ⟨r.frames, .name [] true⟩
  | .item true, .closeList => r.frames.tail?.map fun fs => ⟨fs, .separator (.list [])⟩
  | .name fields _, .leaf (.text name) => some ⟨r.frames, .colon fields name⟩
  | .name _ true, .closeRecord => some ⟨r.frames, .separator (.record [])⟩
  | .colon fields name, .colon => some ⟨.record fields name :: r.frames, .item false⟩
  | .separator d, .comma =>
    match r.frames with
    | .list items :: fs => some ⟨.list (d :: items) :: fs, .item false⟩
    | .record fields name :: fs => some ⟨fs, .name (addField fields name d) false⟩
    | [] => none
  | .separator d, .closeList =>
    match r.frames with
    | .list items :: fs => some ⟨fs, .separator (.list (d :: items).reverse)⟩
    | _ => none
  | .separator d, .closeRecord =>
    match r.frames with
    | .record fields name :: fs =>
      some ⟨fs, .separator (.record (addField fields name d).reverse)⟩
    | _ => none
  | _, _ => none

end Reader

/-- The document that pieces make up, if they are one document and nothing else. -/
def ofTokens? (ts : List (Token α)) : Option (Document α) := do
  let r ← ts.foldlM Reader.step? ⟨[], .item false⟩
  match r.frames, r.awaited with
  | [], .separator d => some d
  | _, _ => none

def ofText? (text : String) : Option (Document Float) := do
  ofTokens? (← Token.ofText? text)

end OneSided.Document
