import OneSided.Drive.Bounded
import OneSided.Lock.Coordinate

/-! A motor on one coordinate. Its torque is limited; with a no-load speed the limit
falls along a line from the full torque at rest to nothing at that speed and beyond. -/

namespace OneSided

structure Motor (α : Type) where
  body : Mobilizer
  which : Nat
  maxTorque : α
  noLoad : Option α
  lock : SpeedLock α
  handle? : Option (Handle .drive)

namespace Motor

variable {α : Type} [Scalar α]

def construct (body : Mobilizer) (which : Nat) (target maxTorque : α) :
    Construction α (Motor α) := do
  checkForceLimit .maximumTorque maxTorque
  if Scalar.isFinite target then
    let lock ← SpeedLock.construct body which target
    return ⟨body, which, maxTorque, none, lock, none⟩
  else throw (.speed .targetSpeed target)

def make (t : Topology) (body : Mobilizer) (which : Nat) (target maxTorque : α) :
    Except (Rejection α) (Motor α × Topology) :=
  (construct body which target maxTorque).complete t

/-- A motor cannot lose all its torque at rest. -/
def withNoLoad (m : Motor α) (speed : α) : Except (Rejection α) (Motor α) := do
  checkSpeed .noLoadSpeed speed
  if 0 < speed then .ok { m with noLoad := some speed } else .error (.speed .noLoadSpeed speed)

/-- The speed that the motor holds. -/
def target (m : Motor α) : α := m.lock.speed

/-- The torque left at speed `u`. -/
def torqueAt (m : Motor α) (noLoad u : α) : α :=
  let share := 1 - Scalar.abs u / noLoad
  m.maxTorque * if 0 < share then share else 0

/-- The torque that the motor has at the present speed. -/
def availableTorque (m : Motor α) (s : State α) : Except (Fault α) α :=
  match m.noLoad with
  | some noLoad => return m.torqueAt noLoad (← m.body.speed s m.which)
  | none => .ok m.maxTorque

def switch (m : Motor α) (s : State α) (on : Bool) : Outcome α Bool :=
  s.switch m.lock.constraint on [.driveSwitched on m.handle?]

def bounds (m : Motor α) (s : State α) : Except (Fault α) (α × α) := do
  let t ← m.availableTorque s
  return (-t, t)

instance : BoundedDrive (Motor α) α where
  handle? := handle?
  withHandle m h := { m with handle? := some h }
  switch := switch
  isEnabled m s := s.isEnabled m.lock.constraint
  speedError m s := m.lock.excess s
  multiplierHandle m s := s.multiplierHandle m.lock.constraint 0
  bounds := bounds

end Motor

end OneSided
