import OneSided.Fault
import OneSided.Handle
import OneSided.Notice
import OneSided.Space.Motion
import OneSided.Stage

/-! The state of an assembly: time, the coordinate arrays, the motion of every body,
one slot per constraint, the multipliers and the stage they are valid for.

A constraint that is switched makes the multipliers stale. From then on they belong
to nobody, until `assignMultipliers` lays them out anew over the enabled constraints
in the order of registration. -/

namespace OneSided

/-- What a state keeps for one constraint. -/
structure Slot (α : Type) where
  /-- How many multipliers the constraint takes while it is enabled. -/
  size : Nat
  enabled : Bool
  /-- The point in plane coordinates where a sticking contact took hold. -/
  anchor : Option (Vec3 α)

structure State (α : Type) where
  time : α
  q : List α
  u : List α
  udot : List α
  motions : List (Motion α)
  slots : List (Slot α)
  multipliers : List α
  /-- A constraint was switched since the multipliers were laid out. -/
  stale : Bool
  stage : Stage

/-- What came of an operation on a state. An operation that fails keeps what it had
changed before, so there is a state in either case. -/
structure Outcome (α β : Type) where
  state : State α
  answer : Except (Fault α) β
  notices : List (Notice α)

/-- A run of consecutive multipliers. -/
structure Block where
  start : Nat
  size : Nat
deriving DecidableEq

def Block.stop (b : Block) : Nat := b.start + b.size

/-- Multipliers taken by the enabled ones of some slots. -/
def Slot.total {α : Type} (slots : List (Slot α)) : Nat :=
  ((slots.filter (·.enabled)).map (·.size)).foldl (· + ·) 0

namespace State

variable {α : Type}

/-! ### Reading -/

def coordinate (s : State α) (i : Nat) : Except (Fault α) α := Fault.fetch s.q i

def speed (s : State α) (i : Nat) : Except (Fault α) α := Fault.fetch s.u i

def rate (s : State α) (i : Nat) : Except (Fault α) α := Fault.fetch s.udot i

def motion (s : State α) (b : Handle .body) : Except (Fault α) (Motion α) :=
  Fault.fetch s.motions b.toNat

def slot (s : State α) (c : Handle .constraint) : Except (Fault α) (Slot α) :=
  Fault.fetch s.slots c.toNat

def isEnabled (s : State α) (c : Handle .constraint) : Except (Fault α) Bool :=
  return (← s.slot c).enabled

def anchor (s : State α) (c : Handle .constraint) : Except (Fault α) (Option (Vec3 α)) :=
  return (← s.slot c).anchor

/-! ### Multipliers -/

/-- How many multipliers the enabled constraints take. -/
def numMultipliers (s : State α) : Nat := Slot.total s.slots

def multiplier? (s : State α) (m : Handle .multiplier) : Option α := s.multipliers[m.toNat]?

/-- The multipliers of a constraint: none while it is disabled or they are stale. -/
def multiplierBlock (s : State α) (c : Handle .constraint) : Except (Fault α) (Option Block) :=
  if s.stale then .ok none
  else do
    let slot ← s.slot c
    if slot.enabled then
      .ok (some ⟨Slot.total (s.slots.take c.toNat), slot.size⟩)
    else .ok none

/-- The multiplier for direction `which` of a constraint. The sum is one of machine
words and wraps around. -/
def multiplierHandle (s : State α) (c : Handle .constraint) (which : UInt64) :
    Except (Fault α) (Option (Handle .multiplier)) := do
  let block? ← s.multiplierBlock c
  return block?.bind fun block =>
    let i := block.start.toUInt64 + which
    if i < block.stop.toUInt64 then some (Handle.ofNat i.toNat) else none

/-- Lays the multipliers out anew, all zero, if they are stale. -/
def assignMultipliers [Zero α] (s : State α) : State α :=
  if s.stale then
    { s with multipliers := List.replicate s.numMultipliers 0, stale := false }
  else s

/-! ### Writing

Entries of the coordinate arrays and motions are reached through the whole array:
opening it already takes the stage back, whether or not the entry exists. -/

def invalidate (s : State α) (first : Stage) : State α :=
  { s with stage := s.stage.invalidate first }

/-- An outcome without answer or notice. -/
def done (s : State α) : Outcome α Unit := ⟨s, .ok (), []⟩

def outOfBounds (s : State α) : Outcome α Unit := ⟨s, .error .outOfBounds, []⟩

def setTime (s : State α) (t : α) : Outcome α Unit :=
  (({ s with time := t } : State α).invalidate .position).done

def setCoordinate (s : State α) (i : Nat) (v : α) : Outcome α Unit :=
  let s := s.invalidate .position
  if i < s.q.length then ({ s with q := s.q.set i v } : State α).done else s.outOfBounds

def setSpeed (s : State α) (i : Nat) (v : α) : Outcome α Unit :=
  let s := s.invalidate .velocity
  if i < s.u.length then ({ s with u := s.u.set i v } : State α).done else s.outOfBounds

def setRate (s : State α) (i : Nat) (v : α) : Outcome α Unit :=
  let s := s.invalidate .acceleration
  if i < s.udot.length then ({ s with udot := s.udot.set i v } : State α).done else s.outOfBounds

/-- Changes the motion of a body. -/
def modifyMotion (s : State α) (b : Handle .body) (change : Motion α → Motion α) : Outcome α Unit :=
  let s := s.invalidate .position
  if b.toNat < s.motions.length then
    ({ s with motions := s.motions.modify b.toNat change } : State α).done
  else s.outOfBounds

/-- Multipliers are results, so writing one leaves the stage alone. -/
def setMultiplier (s : State α) (i : Nat) (v : α) : Outcome α Unit :=
  if i < s.multipliers.length then
    ({ s with multipliers := s.multipliers.set i v } : State α).done
  else s.outOfBounds

/-- Switches a constraint on or off and tells whether that changed anything. Only a
change makes the multipliers stale, takes the stage back and is worth a notice. -/
def switch (s : State α) (c : Handle .constraint) (on : Bool) (notices : List (Notice α)) :
    Outcome α Bool :=
  match s.slot c with
  | .error fault => ⟨s, .error fault, []⟩
  | .ok slot =>
    if slot.enabled = on then ⟨s, .ok false, []⟩
    else
      let slots := s.slots.set c.toNat { slot with enabled := on }
      ⟨({ s with slots := slots, stale := true } : State α).invalidate .position, .ok true, notices⟩

def setAnchor (s : State α) (c : Handle .constraint) (p : Option (Vec3 α)) : Outcome α Unit :=
  match s.slot c with
  | .error fault => ⟨s, .error fault, []⟩
  | .ok slot =>
    let slots := s.slots.set c.toNat { slot with anchor := p }
    (({ s with slots := slots } : State α).invalidate .position).done

end State

end OneSided
