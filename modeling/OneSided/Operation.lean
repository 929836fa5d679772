import OneSided.Assembly.Basic

/-! Everything that can be done to a state, as data, so that whole runs can be spoken
about. Only switching an element has an answer: whether it changed anything. -/

namespace OneSided

/-- What can be switched on and off. -/
inductive Element (α : Type) where
  | contact (c : Contact α)
  | friction (f : FrictionElement α)
  | drive (d : Drive α)
  | lock (l : Lock α)

inductive Operation (α : Type) where
  | setTime (t : α)
  | setCoordinate (i : Nat) (v : α)
  | setSpeed (i : Nat) (v : α)
  | setRate (i : Nat) (v : α)
  | modifyMotion (b : Handle .body) (change : Motion α → Motion α)
  | setMultiplier (i : Nat) (v : α)
  | invalidate (first : Stage)
  | switch (e : Element α) (on : Bool)
  | setAnchor (l : StickingBall α) (p : Option (Vec3 α))
  | realize (t : Topology) (stage : Stage)

variable {α : Type} [Scalar α]

/-- Switches an element; a contact, friction or drive gives notice of a change. -/
def Element.switch (e : Element α) (s : State α) (on : Bool) : Outcome α Bool :=
  match e with
  | contact c => Unilateral.switch c s on
  | friction f => LimitedFriction.switch f s on
  | drive d => BoundedDrive.switch d s on
  | lock l => l.switch s on

/-- The constraint that an element switches. Prescribed elements have none. -/
def Element.constraint? : Element α → Option (Handle .constraint)
  | contact c => c.lock?.map (·.constraint)
  | friction (.joint f) => some f.lock.constraint
  | friction (.prescribed _) => none
  | drive (.motor m) => some m.lock.constraint
  | drive (.prescribed _) => none
  | lock l => some l.constraint

namespace Outcome

/-- Forgets that there is nothing to answer. -/
def silent (o : Outcome α Unit) : Outcome α (Option Bool) :=
  ⟨o.state, o.answer.map fun _ => none, o.notices⟩

def telling (o : Outcome α Bool) : Outcome α (Option Bool) :=
  ⟨o.state, o.answer.map some, o.notices⟩

end Outcome

namespace Operation

def run (op : Operation α) (s : State α) : Outcome α (Option Bool) :=
  match op with
  | setTime t => (s.setTime t).silent
  | setCoordinate i v => (s.setCoordinate i v).silent
  | setSpeed i v => (s.setSpeed i v).silent
  | setRate i v => (s.setRate i v).silent
  | modifyMotion b change => (s.modifyMotion b change).silent
  | setMultiplier i v => (s.setMultiplier i v).silent
  | invalidate first => (s.invalidate first).done.silent
  | switch e on => (e.switch s on).telling
  | setAnchor l p => (l.setAnchor s p).silent
  | realize t stage => (t.realize s stage).silent

/-- The state after some operations in turn, failing ones included. -/
def runAll (ops : List (Operation α)) (s : State α) : State α :=
  ops.foldl (fun s op => (op.run s).state) s

@[simp] theorem runAll_nil (s : State α) : runAll [] s = s := rfl

@[simp] theorem runAll_cons (op : Operation α) (ops : List (Operation α)) (s : State α) :
    runAll (op :: ops) s = runAll ops (op.run s).state := rfl

theorem runAll_append (xs ys : List (Operation α)) (s : State α) :
    runAll (xs ++ ys) s = runAll ys (runAll xs s) := List.foldl_append

end Operation

end OneSided
