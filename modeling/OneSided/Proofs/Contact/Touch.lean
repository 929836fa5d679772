import OneSided.Contact.Basic

/-! What the locks and the contacts of a ball tell. A lock tells measures of the ball while
it is enabled, and nothing else. Main statement: a contact tells the same measures whether
it is enabled or not. -/

namespace OneSided

variable {α : Type} {s : State α}

/-- The bodies of a ball move as `b` and `f`. -/
structure Ball.Carried (g : Ball α) (s : State α) (b f : Motion α) : Prop where
  base : s.motion g.base = .ok b
  follower : s.motion g.follower = .ok f

/-- Where another answer stands in that agrees with the one while enabled, only the lack of
the constraint makes a difference. -/
theorem State.whileEnabled_bind {β γ : Type} {c : Handle .constraint} {ask : Except (Fault α) β}
    {f : β → γ} {other : Except (Fault α) γ} {k : Option β → Except (Fault α) γ}
    (hsome : ∀ x, k (some x) = .ok (f x)) (hnone : k none = other) (h : other = ask.map f) :
    s.whileEnabled c ask >>= k = (do let _ ← s.isEnabled c; other) := by
  unfold whileEnabled
  cases s.isEnabled c with
  | error => rfl
  | ok on =>
    cases on with
    | false => exact hnone
    | true =>
      rw [h]
      cases ask with
      | error => rfl
      | ok x => exact hsome x

theorem State.whileEnabled_of_ok {β : Type} {c : Handle .constraint} {on : Bool}
    {ask : Except (Fault α) β} {x : β} (he : s.isEnabled c = .ok on) (hx : ask = .ok x) :
    s.whileEnabled c ask = .ok (if on then some x else none) := by
  rw [whileEnabled, he, hx]
  cases on <;> rfl

variable {g : Ball α} {b f : Motion α}

theorem Ball.Carried.measure {β : Type} (hg : g.Carried s b f)
    (m : Ball α → Motion α → Motion α → β) : g.measure s m = .ok (m g b f) := by
  rw [Ball.measure, hg.base, hg.follower]
  rfl

theorem Ball.measure_map {β γ : Type} {m : Ball α → Motion α → Motion α → β}
    {n : Ball α → Motion α → Motion α → γ} {f : β → γ} (h : ∀ g b k, n g b k = f (m g b k)) :
    g.measure s n = (g.measure s m).map f := by
  unfold Ball.measure
  cases s.motion g.base with
  | error => rfl
  | ok b =>
    cases s.motion g.follower with
    | error => rfl
    | ok k => exact congrArg Except.ok (h g b k)

/-- A tangential and a normal measure, told as one vector. -/
theorem Ball.measure_vector {t : Ball α → Motion α → Motion α → Vec2 α}
    {n : Ball α → Motion α → Motion α → α} {v : Ball α → Motion α → Motion α → Vec3 α}
    (h : ∀ g b k, v g b k = ⟨(t g b k).x, (t g b k).y, n g b k⟩) :
    (do
      let slip ← g.measure s t
      return ⟨slip.x, slip.y, ← g.measure s n⟩) = g.measure s v := by
  unfold Ball.measure
  cases s.motion g.base with
  | error => rfl
  | ok b =>
    cases s.motion g.follower with
    | error => rfl
    | ok k => exact congrArg Except.ok (h g b k).symm

variable [Scalar α]

/-! ### Locks -/

theorem GlidingBall.errors_of_carried {l : GlidingBall α} {on : Bool} (hg : l.ball.Carried s b f)
    (he : s.isEnabled l.constraint = .ok on) :
    l.positionError s = .ok (if on then some (l.ball.separation b f) else none) ∧
    l.velocityError s = .ok (if on then some (l.ball.separationRate b f) else none) ∧
    l.accelerationError s = .ok (if on then some (l.ball.separationSecondRate b f) else none) :=
  ⟨State.whileEnabled_of_ok he (hg.measure _), State.whileEnabled_of_ok he (hg.measure _),
    State.whileEnabled_of_ok he (hg.measure _)⟩

namespace Ball

/-- What a sticking ball holds at zero: its slip, and the rate of its separation. -/
def stickingVelocity (g : Ball α) (b f : Motion α) : Vec3 α :=
  ⟨(g.slipVelocity b f).x, (g.slipVelocity b f).y, g.separationRate b f⟩

def stickingAcceleration (g : Ball α) (b f : Motion α) : Vec3 α :=
  ⟨(g.slipAcceleration b f).x, (g.slipAcceleration b f).y, g.separationSecondRate b f⟩

end Ball

namespace StickingBall

variable (l : StickingBall α) (s : State α)

theorem velocityErrors_eq :
    l.velocityErrors s = s.whileEnabled l.constraint (l.ball.measure s Ball.stickingVelocity) :=
  congrArg (s.whileEnabled l.constraint) (Ball.measure_vector fun _ _ _ => rfl)

theorem accelerationErrors_eq :
    l.accelerationErrors s =
      s.whileEnabled l.constraint (l.ball.measure s Ball.stickingAcceleration) :=
  congrArg (s.whileEnabled l.constraint) (Ball.measure_vector fun _ _ _ => rfl)

end StickingBall

theorem StickingBall.errors_of_carried {l : StickingBall α} {on : Bool}
    (hg : l.ball.Carried s b f) (he : s.isEnabled l.constraint = .ok on) :
    l.positionError s = .ok (if on then some (l.ball.separation b f) else none) ∧
    l.velocityErrors s = .ok (if on then some (l.ball.stickingVelocity b f) else none) ∧
    l.accelerationErrors s =
      .ok (if on then some (l.ball.stickingAcceleration b f) else none) := by
  rw [l.velocityErrors_eq, l.accelerationErrors_eq]
  exact ⟨State.whileEnabled_of_ok he (hg.measure _), State.whileEnabled_of_ok he (hg.measure _),
    State.whileEnabled_of_ok he (hg.measure _)⟩

/-! ### Contacts -/

namespace GlidingTouch

variable (c : GlidingTouch α) (s : State α)

theorem positionError_eq :
    c.positionError s = (do
      let _ ← s.isEnabled c.lock.constraint
      c.lock.ball.measure s Ball.separation) :=
  State.whileEnabled_bind (fun _ => rfl) rfl (id_map _).symm

theorem velocityError_eq :
    c.velocityError s = (do
      let _ ← s.isEnabled c.lock.constraint
      c.lock.ball.measure s Ball.separationRate) :=
  State.whileEnabled_bind (fun _ => rfl) rfl (id_map _).symm

theorem accelerationError_eq :
    c.accelerationError s = (do
      let _ ← s.isEnabled c.lock.constraint
      c.lock.ball.measure s Ball.separationSecondRate) :=
  State.whileEnabled_bind (fun _ => rfl) rfl (id_map _).symm

end GlidingTouch

namespace GrippingTouch

variable (c : GrippingTouch α) (s : State α)

theorem positionError_eq :
    c.positionError s = (do
      let _ ← s.isEnabled c.lock.constraint
      c.lock.ball.measure s Ball.separation) :=
  State.whileEnabled_bind (fun _ => rfl) rfl (id_map _).symm

theorem velocityError_eq :
    c.velocityError s = (do
      let _ ← s.isEnabled c.lock.constraint
      c.lock.ball.measure s Ball.separationRate) := by
  have hz : c.lock.ball.measure s Ball.separationRate =
      (c.lock.ball.measure s Ball.stickingVelocity).map (·.z) := Ball.measure_map fun _ _ _ => rfl
  rw [velocityError, StickingBall.velocityErrors_eq]
  exact State.whileEnabled_bind (fun _ => rfl) rfl hz

theorem accelerationError_eq :
    c.accelerationError s = (do
      let _ ← s.isEnabled c.lock.constraint
      c.lock.ball.measure s Ball.separationSecondRate) := by
  have hz : c.lock.ball.measure s Ball.separationSecondRate =
      (c.lock.ball.measure s Ball.stickingAcceleration).map (·.z) := Ball.measure_map fun _ _ _ => rfl
  rw [accelerationError, StickingBall.accelerationErrors_eq]
  exact State.whileEnabled_bind (fun _ => rfl) rfl hz

theorem slipVelocity_eq :
    c.slipVelocity s = (do
      let _ ← s.isEnabled c.lock.constraint
      c.lock.ball.measure s Ball.slipVelocity) := by
  have hxy : c.lock.ball.measure s Ball.slipVelocity =
      (c.lock.ball.measure s Ball.stickingVelocity).map fun e => ⟨e.x, e.y⟩ :=
    Ball.measure_map fun _ _ _ => rfl
  rw [slipVelocity, StickingBall.velocityErrors_eq]
  exact State.whileEnabled_bind (fun _ => rfl) rfl hxy

end GrippingTouch

theorem GlidingTouch.errors_of_carried {c : GlidingTouch α} {on : Bool}
    (hg : c.lock.ball.Carried s b f) (he : s.isEnabled c.lock.constraint = .ok on) :
    c.positionError s = .ok (c.lock.ball.separation b f) ∧
    c.velocityError s = .ok (c.lock.ball.separationRate b f) ∧
    c.accelerationError s = .ok (c.lock.ball.separationSecondRate b f) := by
  rw [positionError_eq, velocityError_eq, accelerationError_eq, he]
  exact ⟨hg.measure _, hg.measure _, hg.measure _⟩

theorem GrippingTouch.errors_of_carried {c : GrippingTouch α} {on : Bool}
    (hg : c.lock.ball.Carried s b f) (he : s.isEnabled c.lock.constraint = .ok on) :
    c.positionError s = .ok (c.lock.ball.separation b f) ∧
    c.velocityError s = .ok (c.lock.ball.separationRate b f) ∧
    c.accelerationError s = .ok (c.lock.ball.separationSecondRate b f) := by
  rw [positionError_eq, velocityError_eq, accelerationError_eq, he]
  exact ⟨hg.measure _, hg.measure _, hg.measure _⟩

theorem GrippingTouch.slipVelocity_of_carried {c : GrippingTouch α} {on : Bool}
    (hg : c.lock.ball.Carried s b f) (he : s.isEnabled c.lock.constraint = .ok on) :
    c.slipVelocity s = .ok (c.lock.ball.slipVelocity b f) := by
  rw [slipVelocity_eq, he]
  exact hg.measure _

/-- Every contact of a ball tells the separation and its rates. -/
theorem Contact.errors_of_carried {c : Contact α} {on : Bool}
    (hc : c.lock?.bind Lock.ball? = some g) (hg : g.Carried s b f)
    (he : Unilateral.isEnabled c s = .ok on) :
    Unilateral.positionError c s = .ok (g.separation b f) ∧
    Unilateral.velocityError c s = .ok (g.separationRate b f) ∧
    Unilateral.accelerationError c s = .ok (g.separationSecondRate b f) := by
  cases c with
  | gliding c => cases hc; exact GlidingTouch.errors_of_carried hg he
  | gripping c => cases hc; exact GrippingTouch.errors_of_carried hg he
  | stop c => cases hc
  | prescribed c => cases hc

/-- The contacts of a ball that have friction tell its slip. -/
theorem Contact.slipVelocity_of_carried {c : Contact α} {on : Bool}
    (hc : c.lock?.bind Lock.ball? = some g) (hg : g.Carried s b f)
    (he : Unilateral.isEnabled c s = .ok on) :
    Unilateral.slipVelocity c s =
      .ok (if Unilateral.hasFriction c then some (g.slipVelocity b f) else none) := by
  cases c with
  | gliding c => rfl
  | gripping c =>
    cases hc
    have h := GrippingTouch.slipVelocity_of_carried hg he
    change (c.slipVelocity s >>= fun v => pure (some v)) = _
    rw [h]
    rfl
  | stop c => cases hc
  | prescribed c => cases hc

end OneSided
