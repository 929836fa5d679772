import OneSided.Calibration.Impact

/-! The speeds that a caller supplies to elements without calibrated ones. -/

namespace OneSided

structure Thresholds (α : Type) where
  capture : α
  plateau : α
  transition : α

namespace Thresholds

variable {α : Type}

def range (t : Thresholds α) : ImpactRange α := ⟨t.capture, t.plateau⟩

variable [Scalar α]

def usual : Thresholds α := ⟨1.0e-4, 1, 1.0e-3⟩

def check (t : Thresholds α) : Except (Rejection α) Unit := do
  checkSpeed .defaultCaptureSpeed t.capture
  checkSpeed .defaultPlateauSpeed t.plateau
  checkSpeed .defaultTransitionSpeed t.transition
  if t.plateau < t.capture then .error (.captureSpeed t.capture t.plateau) else .ok ()

end Thresholds

end OneSided
