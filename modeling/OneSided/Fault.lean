import OneSided.Calibration.Rejection

/-! Why a question about a state, or a change of it, has no answer: its caller broke
a promise. -/

namespace OneSided

inductive Fault (α : Type) where
  /-- A calibration that the caller vouched for is not valid. -/
  | rejected (why : Rejection α)
  | leastRestitution (found : α)
  | captureSpeed (capture plateau : α)
  | impactSpeed (found : α)
  | frictionCoefficient (static dynamic viscous : α)
  | staticBelowDynamic (static dynamic : α)
  | slipSpeed (transition slip : α)
  | reactionBounds (lower upper : α)
  /-- The state was laid out for another assembly. -/
  | topology
  | outOfBounds

namespace Fault

variable {α β : Type}

def message [Legible α] : Fault α → String
  | rejected why => why.message
  | leastRestitution found => "invalid minimum COR: " ++ Legible.text found
  | captureSpeed capture plateau =>
    "invalid capture speed " ++ Legible.text capture ++ " for a minimum COR speed of "
      ++ Legible.text plateau
  | impactSpeed found => "negative impact speed: " ++ Legible.text found
  | frictionCoefficient static dynamic viscous =>
    "negative friction coefficient: mu_s = " ++ Legible.text static ++ ", mu_d = "
      ++ Legible.text dynamic ++ ", mu_v = " ++ Legible.text viscous
  | staticBelowDynamic static dynamic =>
    "mu_s = " ++ Legible.text static ++ " is smaller than mu_d = " ++ Legible.text dynamic
  | slipSpeed transition slip =>
    "negative speed: transition = " ++ Legible.text transition ++ ", slip = " ++ Legible.text slip
  | reactionBounds lower upper =>
    "inconsistent reaction bounds: [" ++ Legible.text lower ++ ", " ++ Legible.text upper ++ "]"
  | topology => "the state does not match the topology of this multibody system"
  | outOfBounds => "an index lies beyond the arrays of the state"

/-- What lies at a place of an array, or the fault that nothing does. -/
def fetch (xs : List β) (i : Nat) : Except (Fault α) β :=
  match xs[i]? with
  | some x => .ok x
  | none => .error .outOfBounds

theorem fetch_of_lt {xs : List β} {i : Nat} (h : i < xs.length) :
    (fetch xs i : Except (Fault α) β) = .ok xs[i] := by
  simp [fetch, h]

theorem fetch_of_le {xs : List β} {i : Nat} (h : xs.length ≤ i) :
    (fetch xs i : Except (Fault α) β) = .error .outOfBounds := by
  simp [fetch, List.getElem?_eq_none h]

end Fault

end OneSided
