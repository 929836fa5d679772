/-! Handles name what an assembly or a state holds by its place there. A handle that
is not assigned yet, or that would name something absent, is `none` where it is
asked for. -/

namespace OneSided

/-- What a handle names. -/
inductive Kind where
  | body
  | constraint
  | multiplier
  | contact
  | friction
  | drive
deriving DecidableEq

/-- How messages call it. -/
def Kind.label : Kind → String
  | body => "mobod"
  | constraint => "constraint"
  | multiplier => "multiplier"
  | contact => "unilateral contact"
  | friction => "state-limited friction"
  | drive => "bounded speed constraint"

structure Handle (k : Kind) where
  raw : UInt32
deriving DecidableEq

namespace Handle

variable {k : Kind}

def ofNat (n : Nat) : Handle k := ⟨n.toUInt32⟩

def toNat (h : Handle k) : Nat := h.raw.toNat

def name (h : Handle k) : String := k.label ++ "#" ++ toString h.toNat

/-- Handles of one kind are ordered as they were given out. -/
def compare (a b : Handle k) : Ordering := Ord.compare a.toNat b.toNat

/-- The first body of every assembly. -/
def ground : Handle .body := ⟨0⟩

theorem toNat_ofNat {n : Nat} (h : n < UInt32.size) : (ofNat n : Handle k).toNat = n :=
  UInt32.toNat_ofNat_of_lt h

theorem toNat_ofNat_le (n : Nat) : (ofNat n : Handle k).toNat ≤ n := Nat.mod_le ..

@[simp] theorem ofNat_toNat (h : Handle k) : ofNat h.toNat = h :=
  congrArg mk h.raw.ofNat_toNat

theorem toNat_injective {a b : Handle k} (h : a.toNat = b.toNat) : a = b := by
  cases a; cases b; simpa [toNat, UInt32.toNat_inj] using h

end Handle

end OneSided
