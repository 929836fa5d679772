import Mathlib
import OneSided.Operation

/-! What constructors do to a topology, worked out from their steps. Every check stands
before the registration, so a constructor that fails has registered nothing. Main
statements: one for each constructor, with the arguments that it accepts, the size of the
constraint that it registers and what it makes around it. -/

namespace OneSided

variable {α β κ μ : Type}

namespace Construction

/-- Exactly when `P` holds the constructor registers a constraint, of `n` multipliers, and
makes something that has `Q` to it. Otherwise it fails and registers nothing. -/
def Makes (c : Construction α κ) (P : Prop) (n : Nat) (Q : Handle .constraint → κ → Prop) : Prop :=
  ∀ t : Topology,
    (P ∧ ∃ x, c.on t = (.ok x, (t.addConstraint n).2) ∧ Q (t.addConstraint n).1 x) ∨
    (¬P ∧ ∃ r, c.on t = (.error r, t))

variable {c : Construction α κ} {P : Prop} {n : Nat} {Q : Handle .constraint → κ → Prop}

/-! ### One rule for each kind of step -/

theorem makes_register (n : Nat) :
    (register n : Construction α (Handle .constraint)).Makes True n fun h x => x = h :=
  fun t => .inl ⟨trivial, (t.addConstraint n).1, rfl, rfl⟩

/-- A check that comes before all else. -/
theorem Makes.after {a : Except (Rejection α) β} {k : β → Construction α κ} {A : Prop}
    (ha : (∃ b, a = .ok b) ↔ A) (hk : ∀ b, a = .ok b → (k b).Makes P n Q) :
    (liftM a >>= k : Construction α κ).Makes (A ∧ P) n Q := by
  intro t
  cases a with
  | error r => exact .inr ⟨fun h => by simpa using ha.2 h.1, r, rfl⟩
  | ok b =>
    have hA : A := ha.1 ⟨b, rfl⟩
    rcases hk b rfl t with ⟨hP, hx⟩ | ⟨hP, hr⟩
    · exact .inl ⟨⟨hA, hP⟩, hx⟩
    · exact .inr ⟨fun h => hP h.2, hr⟩

theorem Makes.guard {b : Prop} [Decidable b] {r : Rejection α} (hc : c.Makes P n Q) :
    Makes (if b then c else throw r) (b ∧ P) n Q := by
  intro t
  by_cases hb : b
  · rw [if_pos hb]
    rcases hc t with ⟨hP, hx⟩ | ⟨hP, hr⟩
    · exact .inl ⟨⟨hb, hP⟩, hx⟩
    · exact .inr ⟨fun h => hP h.2, hr⟩
  · rw [if_neg hb]
    exact .inr ⟨fun h => hb h.1, r, rfl⟩

theorem on_map (f : κ → μ) (t : Topology) :
    Construction.on (do return f (← c)) t = ((c.on t).1.map f, (c.on t).2) := by
  change ExceptT.bindCont (m := StateM Topology) (fun x => pure (f x)) (c.on t).1 (c.on t).2 = _
  cases (c.on t).1 <;> rfl

/-- What is made is put into something larger. -/
theorem Makes.map {f : κ → μ} {R : Handle .constraint → μ → Prop} (hc : c.Makes P n Q)
    (hf : ∀ h x, Q h x → R h (f x)) :
    Makes (do return f (← c)) P n R := by
  intro t
  rw [on_map]
  rcases hc t with ⟨hP, x, hx, hQ⟩ | ⟨hP, r, hr⟩
  · rw [hx]
    exact .inl ⟨hP, f x, rfl, hf _ _ hQ⟩
  · rw [hr]
    exact .inr ⟨hP, r, rfl⟩

/-- All that a constructor that succeeds has done. -/
theorem Makes.of_complete (hc : c.Makes P n Q) {t t' : Topology} {x : κ}
    (h : c.complete t = .ok (x, t')) :
    P ∧ Q (t.addConstraint n).1 x ∧ t' = (t.addConstraint n).2 := by
  rw [complete] at h
  rcases hc t with ⟨hP, y, hy, hQ⟩ | ⟨-, r, hr⟩
  · rw [hy] at h
    cases h
    exact ⟨hP, hQ, rfl⟩
  · rw [hr] at h
    cases h

/-- A constructor succeeds with arguments that it accepts. -/
theorem Makes.complete_eq_ok (hc : c.Makes P n Q) (hP : P) (t : Topology) :
    ∃ x, c.complete t = .ok (x, (t.addConstraint n).2) ∧ Q (t.addConstraint n).1 x := by
  rcases hc t with ⟨-, x, hx, hQ⟩ | ⟨hno, -⟩
  · exact ⟨x, by rw [complete, hx]; rfl, hQ⟩
  · exact absurd hP hno

theorem Makes.of_iff {P' : Prop} (hc : c.Makes P' n Q) (hP : P ↔ P') : c.Makes P n Q := by
  rwa [propext hP]

end Construction

/-! ### Checks -/

theorem Mobilizer.place_isOk {m : Mobilizer} {which : Nat} :
    (∃ k, (m.place which : Except (Rejection α) Nat) = .ok k) ↔ which < m.count := by
  unfold place
  split <;> simp [*]

theorem Mobilizer.place_eq_ok {m : Mobilizer} {which k : Nat} :
    (m.place which : Except (Rejection α) Nat) = .ok k ↔ which < m.count ∧ k = m.first + which := by
  unfold place
  split <;> simp [*, eq_comm]

/-- What a body tells of its coordinate is what lies at the place of the coordinate. -/
theorem Mobilizer.entries_of_place {m : Mobilizer} {which k : Nat}
    (h : (m.place which : Except (Rejection α) Nat) = .ok k) (s : State α) :
    m.coordinate s which = s.coordinate k ∧ m.speed s which = s.speed k ∧
      m.rate s which = s.rate k := by
  have hk : m.knownPlace which = (.ok k : Except (Fault α) Nat) := by
    rw [knownPlace, h]
    rfl
  simp only [coordinate, speed, rate, hk]
  exact ⟨rfl, rfl, rfl⟩

variable [Scalar α]

theorem checkPlace_isOk {q : Quantity} {x : α} :
    (∃ u, checkPlace q x = .ok u) ↔ Scalar.isFinite x := by
  unfold checkPlace
  split <;> simp [*]

theorem checkForceLimit_isOk {q : Quantity} {x : α} :
    (∃ u, checkForceLimit q x = .ok u) ↔ Scalar.isFinite x ∧ 0 ≤ x := by
  unfold checkForceLimit
  split <;> simp_all

theorem checkRadius_isOk {x : α} :
    (∃ u, checkRadius x = .ok u) ↔ Scalar.isFinite x ∧ 0 ≤ x := by
  unfold checkRadius
  split <;> simp_all

/-- A constant force is finite and at least zero. -/
def NormalForce.Valid : NormalForce α → Prop
  | constant x => Scalar.isFinite x ∧ 0 ≤ x
  | ofState _ => True

theorem NormalForce.check_isOk {n : NormalForce α} : (∃ u, n.check = .ok u) ↔ n.Valid := by
  cases n with
  | constant x => exact checkForceLimit_isOk
  | ofState f => exact ⟨fun _ => trivial, fun _ => ⟨(), rfl⟩⟩

namespace Ball

/-- The height of a plane is finite, and the radius of a ball is finite and at least zero. -/
def Valid (height radius : α) : Prop :=
  Scalar.isFinite height ∧ Scalar.isFinite radius ∧ 0 ≤ radius

variable {base follower : Handle .body} {normal centre : Vec3 α} {height radius : α}

theorem make_isOk :
    (∃ g, make base normal height follower centre radius = .ok g) ↔ Valid height radius := by
  have hr := checkRadius_isOk (x := radius)
  have hh := checkPlace_isOk (q := .planeHeight) (x := height)
  unfold make HalfSpace.make Valid
  cases hcr : checkRadius radius <;> cases hch : checkPlace .planeHeight height <;>
    simp_all [bind, Except.bind]

theorem make_eq_ok {g : Ball α} (h : make base normal height follower centre radius = .ok g) :
    ∃ plane, g = ⟨base, plane, follower, centre, radius⟩ := by
  simp only [make, bind, Except.bind] at h
  split at h
  · cases h
  · split at h
    · cases h
    · cases h
      exact ⟨_, rfl⟩

end Ball

/-! ### Locks -/

omit [Scalar α] in
theorem CoordinateLock.construct_makes (body : Mobilizer) (which : Nat) (value : α) :
    (construct body which value).Makes (which < body.count) 1
      fun h l => l = ⟨h, body.first + which, value⟩ := by
  refine .of_iff (.after Mobilizer.place_isOk fun k hk => ?_) (and_true _).symm.to_iff
  obtain ⟨-, rfl⟩ := Mobilizer.place_eq_ok.1 hk
  exact (Construction.makes_register 1).map fun h x hx => by rw [hx]

omit [Scalar α] in
theorem SpeedLock.construct_makes (body : Mobilizer) (which : Nat) (speed : α) :
    (construct body which speed).Makes (which < body.count) 1
      fun h l => l = ⟨h, body.first + which, speed⟩ := by
  refine .of_iff (.after Mobilizer.place_isOk fun k hk => ?_) (and_true _).symm.to_iff
  obtain ⟨-, rfl⟩ := Mobilizer.place_eq_ok.1 hk
  exact (Construction.makes_register 1).map fun h x hx => by rw [hx]

omit [Scalar α] in
theorem GlidingBall.construct_makes (ball : Ball α) :
    (construct ball).Makes True 1 fun h l => l = ⟨h, ball⟩ :=
  fun _ => .inl ⟨trivial, _, rfl, rfl⟩

omit [Scalar α] in
theorem StickingBall.construct_makes (ball : Ball α) :
    (construct ball).Makes True 3 fun h l => l = ⟨h, ball⟩ :=
  fun _ => .inl ⟨trivial, _, rfl, rfl⟩

/-! ### Elements -/

theorem Stop.construct_makes (side : Side) (body : Mobilizer) (which : Nat) (limit : α)
    (restitution : Restitution α) :
    (construct side body which limit restitution).Makes
      (Scalar.isFinite limit ∧ which < body.count) 1 fun h c =>
        c = ⟨side, body, which, limit, restitution, ⟨h, body.first + which, limit⟩, none⟩ :=
  .after checkPlace_isOk fun _ _ =>
    (CoordinateLock.construct_makes body which limit).map fun _ _ hl => by rw [hl]

theorem GlidingTouch.construct_makes (base : Mobilizer) (normal : Vec3 α) (height : α)
    (follower : Mobilizer) (point : Vec3 α) (restitution : Restitution α) :
    (construct base normal height follower point restitution).Makes (Ball.Valid height 0) 1
      fun h c => ∃ plane,
        c = ⟨⟨h, ⟨base.handle, plane, follower.handle, point, 0⟩⟩, restitution, none⟩ := by
  refine .of_iff (.after Ball.make_isOk fun g hg => ?_) (and_true _).symm.to_iff
  obtain ⟨plane, rfl⟩ := Ball.make_eq_ok hg
  exact (GlidingBall.construct_makes _).map fun _ _ hl => ⟨plane, by rw [hl]⟩

theorem GrippingTouch.construct_makes (shape : Shape) (base : Mobilizer) (normal : Vec3 α)
    (height : α) (follower : Mobilizer) (centre : Vec3 α) (radius : α)
    (restitution : Restitution α) (friction : DryFriction α) :
    (construct shape base normal height follower centre radius restitution friction).Makes
      (Ball.Valid height radius) 3 fun h c => ∃ plane,
        c = ⟨shape, ⟨h, ⟨base.handle, plane, follower.handle, centre, radius⟩⟩, restitution,
          friction, none⟩ := by
  refine .of_iff (.after Ball.make_isOk fun g hg => ?_) (and_true _).symm.to_iff
  obtain ⟨plane, rfl⟩ := Ball.make_eq_ok hg
  exact (StickingBall.construct_makes _).map fun _ _ hl => ⟨plane, by rw [hl]⟩

theorem Motor.construct_makes (body : Mobilizer) (which : Nat) (target maxTorque : α) :
    (construct body which target maxTorque).Makes
      ((Scalar.isFinite maxTorque ∧ 0 ≤ maxTorque) ∧ Scalar.isFinite target ∧ which < body.count)
      1 fun h m =>
        m = ⟨body, which, maxTorque, none, ⟨h, body.first + which, target⟩, none⟩ :=
  .after checkForceLimit_isOk fun _ _ =>
    ((SpeedLock.construct_makes body which target).map fun _ _ hl => by rw [hl]).guard

theorem JointFriction.construct_makes (body : Mobilizer) (which : Nat) (friction : DryFriction α)
    (normal : NormalForce α) :
    (construct body which friction normal).Makes (normal.Valid ∧ which < body.count) 1
      fun h f => f = ⟨body, which, friction, normal, ⟨h, body.first + which, 0⟩, none⟩ :=
  .after NormalForce.check_isOk fun _ _ =>
    (SpeedLock.construct_makes body which 0).map fun _ _ hl => by rw [hl]

end OneSided
