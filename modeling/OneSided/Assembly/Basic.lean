import OneSided.Contact.Basic
import OneSided.Drive.Basic
import OneSided.Friction.Basic

/-! An assembly: bodies, constraints, and the one-sided elements registered with it.
Each kind of element has handles of its own, given out in order. -/

namespace OneSided

structure Assembly (α : Type) where
  topology : Topology
  contacts : List (Contact α)
  frictions : List (FrictionElement α)
  drives : List (Drive α)

/-- What came of registering an element. -/
structure Registration (α : Type) (k : Kind) where
  assembly : Assembly α
  handle : Handle k
  notices : List (Notice α)

namespace Assembly

variable {α : Type}

def empty : Assembly α := ⟨.empty, [], [], []⟩

/-! ### Looking up -/

def contact? (a : Assembly α) (h : Handle .contact) : Option (Contact α) := a.contacts[h.toNat]?

def friction? (a : Assembly α) (h : Handle .friction) : Option (FrictionElement α) :=
  a.frictions[h.toNat]?

def drive? (a : Assembly α) (h : Handle .drive) : Option (Drive α) := a.drives[h.toNat]?

/-- The contacts with their handles, in order. -/
def handledContacts (a : Assembly α) : List (Handle .contact × Contact α) :=
  a.contacts.zipIdx.map fun (c, i) => (Handle.ofNat i, c)

/-- The friction elements with their handles, in order. -/
def handledFrictions (a : Assembly α) : List (Handle .friction × FrictionElement α) :=
  a.frictions.zipIdx.map fun (f, i) => (Handle.ofNat i, f)

/-- The drives with their handles, in order. -/
def handledDrives (a : Assembly α) : List (Handle .drive × Drive α) :=
  a.drives.zipIdx.map fun (d, i) => (Handle.ofNat i, d)

/-! ### Registering -/

/-- An element that carries a handle already is noticed, and gets a new one. -/
def registrationNotices {k : Kind} (before : Option (Handle k)) (handle : Handle k) :
    List (Notice α) :=
  (before.toList.map fun b => Notice.registeredAgain b) ++ [.registered handle]

variable [Scalar α]

/-- Takes in a contact, which from then on carries its new handle. -/
def addContact (a : Assembly α) (c : Contact α) : Registration α .contact :=
  let h := Handle.ofNat a.contacts.length
  ⟨{ a with contacts := a.contacts ++ [Unilateral.withHandle c h] }, h,
    registrationNotices (Unilateral.handle? c) h⟩

/-- Takes in a friction element, which from then on carries its new handle. -/
def addFriction (a : Assembly α) (f : FrictionElement α) : Registration α .friction :=
  let h := Handle.ofNat a.frictions.length
  ⟨{ a with frictions := a.frictions ++ [LimitedFriction.withHandle f h] }, h,
    registrationNotices (LimitedFriction.handle? f) h⟩

/-- Takes in a drive, which from then on carries its new handle. -/
def addDrive (a : Assembly α) (d : Drive α) : Registration α .drive :=
  let h := Handle.ofNat a.drives.length
  ⟨{ a with drives := a.drives ++ [BoundedDrive.withHandle d h] }, h,
    registrationNotices (BoundedDrive.handle? d) h⟩

/-- The contacts that are open by no more than `margin`, in order. -/
def proximal (a : Assembly α) (s : State α) (margin : α) :
    Except (Fault α) (List (Handle .contact)) := do
  let near ← a.contacts.mapM fun c => Unilateral.isProximal c s margin
  return (near.zipIdx.filter fun (b, _) => b).map fun (_, i) => Handle.ofNat i

end Assembly

end OneSided
