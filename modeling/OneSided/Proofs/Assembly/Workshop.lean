import OneSided.Proofs.Assembly.Construction

/-! How an assembly comes about. Bodies are added, constructors are called, and elements
are handed over, in any order and with any arguments. Each constructor that succeeds
registers exactly one constraint, for the lock that its element wraps, so the locks of
all elements made so far stand in the order of their constraints. -/

namespace OneSided

variable {α : Type}

/-- The lock that an element switches. Prescribed elements have none. -/
def Element.lock? : Element α → Option (Lock α)
  | contact c => c.lock?
  | friction (.joint f) => some (.speed f.lock)
  | friction (.prescribed _) => none
  | drive (.motor m) => some (.speed m.lock)
  | drive (.prescribed _) => none
  | lock l => some l

/-- A call of a constructor with its arguments. -/
inductive Part (α : Type) where
  | coordinateLock (body : Mobilizer) (which : Nat) (value : α)
  | speedLock (body : Mobilizer) (which : Nat) (speed : α)
  | glidingBall (ball : Ball α)
  | stickingBall (ball : Ball α)
  | stop (side : Side) (body : Mobilizer) (which : Nat) (limit : α) (restitution : Restitution α)
  | glidingTouch (base : Mobilizer) (normal : Vec3 α) (height : α) (follower : Mobilizer)
      (point : Vec3 α) (restitution : Restitution α)
  | grippingPoint (base : Mobilizer) (normal : Vec3 α) (height : α) (follower : Mobilizer)
      (point : Vec3 α) (restitution : Restitution α) (friction : DryFriction α)
  | grippingSphere (base : Mobilizer) (normal : Vec3 α) (height : α) (follower : Mobilizer)
      (centre : Vec3 α) (radius : α) (restitution : Restitution α) (friction : DryFriction α)
  | motor (body : Mobilizer) (which : Nat) (target maxTorque : α)
  | jointFriction (body : Mobilizer) (which : Nat) (friction : DryFriction α)
      (normal : NormalForce α)

/-- What is done to an assembly while it is put together. -/
inductive BuildStep (α : Type) where
  | body (count : Nat)
  | make (p : Part α)
  | addContact (c : Contact α)
  | addFriction (f : FrictionElement α)
  | addDrive (d : Drive α)

/-- An assembly with the elements that its constructors have returned, in order. -/
structure Workshop (α : Type) where
  assembly : Assembly α
  made : List (Element α)

section Making

variable [Scalar α]

/-- Names what a constructor has returned as an element. -/
def Part.wrap {κ : Type} (f : κ → Element α) (x : Except (Rejection α) (κ × Topology)) :
    Except (Rejection α) (Element α × Topology) :=
  x.map (Prod.map f id)

def Part.make (p : Part α) (t : Topology) : Except (Rejection α) (Element α × Topology) :=
  match p with
  | coordinateLock body which value =>
    wrap (fun l => .lock (.coordinate l)) (CoordinateLock.register t body which value)
  | speedLock body which speed =>
    wrap (fun l => .lock (.speed l)) (SpeedLock.register t body which speed)
  | glidingBall ball => wrap (fun l => .lock (.gliding l)) (.ok (GlidingBall.register t ball))
  | stickingBall ball => wrap (fun l => .lock (.sticking l)) (.ok (StickingBall.register t ball))
  | stop side body which limit restitution =>
    wrap (fun c => .contact (.stop c)) (Stop.make t side body which limit restitution)
  | glidingTouch base normal height follower point restitution =>
    wrap (fun c => .contact (.gliding c))
      (GlidingTouch.make t base normal height follower point restitution)
  | grippingPoint base normal height follower point restitution friction =>
    wrap (fun c => .contact (.gripping c))
      (GrippingTouch.make t .point base normal height follower point 0 restitution friction)
  | grippingSphere base normal height follower centre radius restitution friction =>
    wrap (fun c => .contact (.gripping c))
      (GrippingTouch.make t .sphere base normal height follower centre radius restitution friction)
  | motor body which target maxTorque =>
    wrap (fun m => .drive (.motor m)) (Motor.make t body which target maxTorque)
  | jointFriction body which friction normal =>
    wrap (fun f => .friction (.joint f)) (JointFriction.make t body which friction normal)

namespace Workshop

def empty : Workshop α := ⟨.empty, []⟩

def topology (w : Workshop α) : Topology := w.assembly.topology

/-- A constructor that fails leaves everything as it was. -/
def step (w : Workshop α) : BuildStep α → Workshop α
  | .body count =>
    { w with assembly := { w.assembly with topology := (w.topology.addBody count).2 } }
  | .make p =>
    match p.make w.topology with
    | .ok (e, t) => ⟨{ w.assembly with topology := t }, w.made ++ [e]⟩
    | .error _ => w
  | .addContact c => { w with assembly := (w.assembly.addContact c).assembly }
  | .addFriction f => { w with assembly := (w.assembly.addFriction f).assembly }
  | .addDrive d => { w with assembly := (w.assembly.addDrive d).assembly }

def build (steps : List (BuildStep α)) : Workshop α := steps.foldl step empty

/-- The locks of the elements made so far. -/
def locks (w : Workshop α) : List (Lock α) := w.made.filterMap Element.lock?

end Workshop

end Making

/-! ### One constraint for each call that succeeds -/

namespace Part

/-- How many multipliers the constraint of the part takes. -/
def size : Part α → Nat
  | stickingBall _ | grippingPoint .. | grippingSphere .. => 3
  | _ => 1

section Constructing

variable [Scalar α]

/-- The constructor that a call runs. -/
def construct : Part α → Construction α (Element α)
  | coordinateLock body which value => do
    return .lock (.coordinate (← CoordinateLock.construct body which value))
  | speedLock body which speed => do
    return .lock (.speed (← SpeedLock.construct body which speed))
  | glidingBall ball => do return .lock (.gliding (← GlidingBall.construct ball))
  | stickingBall ball => do return .lock (.sticking (← StickingBall.construct ball))
  | stop side body which limit restitution => do
    return .contact (.stop (← Stop.construct side body which limit restitution))
  | glidingTouch base normal height follower point restitution => do
    return .contact (.gliding
      (← GlidingTouch.construct base normal height follower point restitution))
  | grippingPoint base normal height follower point restitution friction => do
    return .contact (.gripping (← GrippingTouch.construct .point base normal height follower
      point 0 restitution friction))
  | grippingSphere base normal height follower centre radius restitution friction => do
    return .contact (.gripping (← GrippingTouch.construct .sphere base normal height follower
      centre radius restitution friction))
  | motor body which target maxTorque => do
    return .drive (.motor (← Motor.construct body which target maxTorque))
  | jointFriction body which friction normal => do
    return .friction (.joint (← JointFriction.construct body which friction normal))

/-- The arguments that a constructor accepts: an existing coordinate, and finite scalars
that are at least zero where their meaning asks for it. -/
def Admissible : Part α → Prop
  | coordinateLock body which _ | speedLock body which _ => which < body.count
  | glidingBall _ | stickingBall _ => True
  | stop _ body which limit _ => Scalar.isFinite limit ∧ which < body.count
  | glidingTouch _ _ height _ _ _ | grippingPoint _ _ height _ _ _ _ => Ball.Valid height 0
  | grippingSphere _ _ height _ _ radius _ _ => Ball.Valid height radius
  | motor body which target maxTorque =>
    (Scalar.isFinite maxTorque ∧ 0 ≤ maxTorque) ∧ Scalar.isFinite target ∧ which < body.count
  | jointFriction body which _ normal => normal.Valid ∧ which < body.count

/-- What a constructor makes around a constraint. -/
def Yields (p : Part α) (h : Handle .constraint) (e : Element α) : Prop :=
  match p with
  | coordinateLock body which value => e = .lock (.coordinate ⟨h, body.first + which, value⟩)
  | speedLock body which speed => e = .lock (.speed ⟨h, body.first + which, speed⟩)
  | glidingBall ball => e = .lock (.gliding ⟨h, ball⟩)
  | stickingBall ball => e = .lock (.sticking ⟨h, ball⟩)
  | stop side body which limit restitution => e = .contact (.stop
      ⟨side, body, which, limit, restitution, ⟨h, body.first + which, limit⟩, none⟩)
  | glidingTouch base _ _ follower point restitution => ∃ plane, e = .contact (.gliding
      ⟨⟨h, ⟨base.handle, plane, follower.handle, point, 0⟩⟩, restitution, none⟩)
  | grippingPoint base _ _ follower point restitution friction =>
    ∃ plane, e = .contact (.gripping ⟨.point,
      ⟨h, ⟨base.handle, plane, follower.handle, point, 0⟩⟩, restitution, friction, none⟩)
  | grippingSphere base _ _ follower centre radius restitution friction =>
    ∃ plane, e = .contact (.gripping ⟨.sphere,
      ⟨h, ⟨base.handle, plane, follower.handle, centre, radius⟩⟩, restitution, friction, none⟩)
  | motor body which target maxTorque => e = .drive (.motor
      ⟨body, which, maxTorque, none, ⟨h, body.first + which, target⟩, none⟩)
  | jointFriction body which friction normal => e = .friction (.joint
      ⟨body, which, friction, normal, ⟨h, body.first + which, 0⟩, none⟩)

/-- Every constructor makes its element around one constraint, or nothing. -/
theorem construct_makes (p : Part α) : p.construct.Makes p.Admissible p.size p.Yields := by
  cases p with
  | coordinateLock body which value =>
    exact (CoordinateLock.construct_makes body which value).map fun _ _ h => by cases h; rfl
  | speedLock body which speed =>
    exact (SpeedLock.construct_makes body which speed).map fun _ _ h => by cases h; rfl
  | glidingBall ball => exact (GlidingBall.construct_makes ball).map fun _ _ h => by cases h; rfl
  | stickingBall ball => exact (StickingBall.construct_makes ball).map fun _ _ h => by cases h; rfl
  | stop side body which limit restitution =>
    exact (Stop.construct_makes side body which limit restitution).map fun _ _ h => by cases h; rfl
  | glidingTouch base normal height follower point restitution =>
    exact (GlidingTouch.construct_makes base normal height follower point restitution).map
      fun _ _ ⟨plane, h⟩ => ⟨plane, by rw [h]⟩
  | grippingPoint base normal height follower point restitution friction =>
    exact (GrippingTouch.construct_makes .point base normal height follower point 0 restitution
      friction).map fun _ _ ⟨plane, h⟩ => ⟨plane, by rw [h]⟩
  | grippingSphere base normal height follower centre radius restitution friction =>
    exact (GrippingTouch.construct_makes .sphere base normal height follower centre radius
      restitution friction).map fun _ _ ⟨plane, h⟩ => ⟨plane, by rw [h]⟩
  | motor body which target maxTorque =>
    exact (Motor.construct_makes body which target maxTorque).map fun _ _ h => by cases h; rfl
  | jointFriction body which friction normal =>
    exact (JointFriction.construct_makes body which friction normal).map
      fun _ _ h => by cases h; rfl

omit [Scalar α] in
theorem wrap_complete {κ : Type} (f : κ → Element α) (c : Construction α κ) (t : Topology) :
    wrap f (c.complete t) = Construction.complete (do return f (← c)) t := by
  rw [Construction.complete, Construction.complete, Construction.on_map, wrap]
  cases (c.on t).1 <;> rfl

theorem make_eq (p : Part α) (t : Topology) : p.make t = p.construct.complete t := by
  cases p with
  | glidingBall | stickingBall => rfl
  | _ => exact wrap_complete _ _ t

/-- The arguments are accepted and the element is made, or nothing is registered. -/
theorem make_cases (p : Part α) (t : Topology) :
    (p.Admissible ∧ ∃ e, p.Yields (t.addConstraint p.size).1 e ∧
      p.construct.on t = (.ok e, (t.addConstraint p.size).2) ∧
      p.make t = .ok (e, (t.addConstraint p.size).2)) ∨
    (¬p.Admissible ∧ ∃ r, p.construct.on t = (.error r, t) ∧ p.make t = .error r) := by
  rw [make_eq, Construction.complete]
  rcases p.construct_makes t with ⟨hp, e, he, hy⟩ | ⟨hp, r, hr⟩
  · rw [he]
    exact .inl ⟨hp, e, hy, rfl, rfl⟩
  · rw [hr]
    exact .inr ⟨hp, r, rfl, rfl⟩

variable {p : Part α} {t t' : Topology} {e : Element α}

/-- All that a constructor that succeeds has done. -/
theorem of_make (h : p.make t = .ok (e, t')) :
    p.Admissible ∧ p.Yields (t.addConstraint p.size).1 e ∧ t' = (t.addConstraint p.size).2 := by
  rw [make_eq] at h
  exact p.construct_makes.of_complete h

theorem Yields.lock {h : Handle .constraint} (he : p.Yields h e) :
    ∃ l, e.lock? = some l ∧ l.constraint = h ∧ l.size = p.size := by
  cases p with
  | glidingTouch | grippingPoint | grippingSphere =>
    obtain ⟨plane, rfl⟩ := he
    exact ⟨_, rfl, rfl, rfl⟩
  | _ =>
    cases he
    exact ⟨_, rfl, rfl, rfl⟩

/-- The element of a constructor that succeeds wraps a lock of its own. -/
theorem make_eq_ok (h : p.make t = .ok (e, t')) :
    ∃ l, e.lock? = some l ∧ (l.constraint, t') = t.addConstraint l.size := by
  obtain ⟨-, hy, rfl⟩ := of_make h
  obtain ⟨l, hl, hc, hs⟩ := hy.lock
  exact ⟨l, hl, by rw [hs, hc]⟩

end Constructing

end Part

/-! ### The locks in order -/

namespace Workshop

/-- The locks stand in the order of their constraints, and the topology has their sizes. -/
structure Sound (w : Workshop α) : Prop where
  sizes : w.topology.sizes = w.locks.map Lock.size
  handles : w.locks.map Lock.constraint = (List.range w.locks.length).map Handle.ofNat

theorem empty_sound : (empty : Workshop α).Sound := ⟨rfl, rfl⟩

variable [Scalar α]

theorem Sound.step {w : Workshop α} (hw : w.Sound) (s : BuildStep α) : (w.step s).Sound := by
  cases s with
  | make p =>
    cases hp : p.make w.topology with
    | error => simpa only [Workshop.step, hp] using hw
    | ok r =>
      obtain ⟨e, t⟩ := r
      obtain ⟨l, hl, ht⟩ := Part.make_eq_ok hp
      simp only [Topology.addConstraint, Prod.mk.injEq] at ht
      obtain ⟨hc, rfl⟩ := ht
      have hstep : w.step (.make p) =
          ⟨{ w.assembly with topology := (w.topology.addConstraint l.size).2 }, w.made ++ [e]⟩ := by
        simp only [Workshop.step, hp, Topology.addConstraint]
      have hlocks : (w.step (.make p)).locks = w.locks ++ [l] := by
        rw [hstep]; simp [locks, hl]
      have hsizes : (w.step (.make p)).topology.sizes = w.topology.sizes ++ [l.size] := by
        rw [hstep]; rfl
      constructor
      · rw [hsizes, hlocks, hw.sizes, List.map_append, List.map_singleton]
      · rw [hlocks, List.map_append, hw.handles, List.length_append, List.length_singleton,
          List.range_succ, List.map_append, List.map_singleton, List.map_singleton, hc, hw.sizes,
          List.length_map]
  | body | addContact | addFriction | addDrive => exact ⟨hw.sizes, hw.handles⟩

theorem build_sound (steps : List (BuildStep α)) : (build steps).Sound :=
  List.foldlRecOn steps Workshop.step empty_sound fun _ hw x _ => hw.step x

/-- What a workshop has made was returned by a constructor. -/
theorem exists_make_of_mem {steps : List (BuildStep α)} {e : Element α}
    (he : e ∈ (build steps).made) : ∃ (p : Part α) (t t' : Topology), p.make t = .ok (e, t') := by
  refine List.foldlRecOn
    (motive := fun w => ∀ e ∈ w.made, ∃ (p : Part α) (t t' : Topology), p.make t = .ok (e, t'))
    steps step (by simp [empty]) (fun w hw x _ => ?_) e he
  cases x with
  | make p =>
    cases hp : p.make w.topology with
    | error => simpa only [step, hp] using hw
    | ok r =>
      simp only [step, hp, List.forall_mem_append, List.forall_mem_singleton]
      exact ⟨hw, p, w.topology, r.2, hp⟩
  | body | addContact | addFriction | addDrive => exact hw

omit [Scalar α] in
theorem Sound.one_or_three {w : Workshop α} (hw : w.Sound) {n : Nat} (hn : n ∈ w.topology.sizes) :
    n = 1 ∨ n = 3 := by
  rw [hw.sizes, List.mem_map] at hn
  obtain ⟨l, -, rfl⟩ := hn
  cases l <;> simp [Lock.size]

end Workshop

/-- Every constraint and every multiplier has a handle of its own: handles are words of 32
bits, and a larger assembly runs out of them. -/
def Topology.Addressable (t : Topology) : Prop := t.sizes.sum ≤ UInt32.size

namespace Workshop

theorem Sound.length_le_sum {w : Workshop α} (hw : w.Sound) :
    w.topology.sizes.length ≤ w.topology.sizes.sum := by
  rw [hw.sizes, List.length_map]
  induction w.locks with
  | nil => simp
  | cons l ls ih =>
    have hl : 1 ≤ l.size := by cases l <;> simp [Lock.size]
    simp only [List.length_cons, List.map_cons, List.sum_cons]
    omega

theorem Sound.constraint_of_getElem? {w : Workshop α} (hw : w.Sound) {i : Nat} {l : Lock α}
    (hl : w.locks[i]? = some l) : l.constraint = Handle.ofNat i := by
  obtain ⟨hi, rfl⟩ := List.getElem?_eq_some_iff.1 hl
  have h := congrArg (·[i]?) hw.handles
  simpa [hi] using h

/-- The constraint of a lock has the place of the lock. -/
theorem Sound.toNat_constraint {w : Workshop α} (hw : w.Sound) (hs : w.topology.Addressable)
    {i : Nat} {l : Lock α} (hl : w.locks[i]? = some l) : l.constraint.toNat = i := by
  have hlen := hw.length_le_sum
  rw [hw.sizes, List.length_map, ← hw.sizes] at hlen
  have hsum : w.topology.sizes.sum ≤ UInt32.size := hs
  have hi : i < w.locks.length := (List.getElem?_eq_some_iff.1 hl).1
  rw [hw.constraint_of_getElem? hl, Handle.toNat_ofNat (by omega)]

/-- A lock made for the assembly names the constraint that was registered for it. -/
theorem Sound.size_of_mem {w : Workshop α} (hw : w.Sound) (hs : w.topology.Addressable)
    {l : Lock α} (hl : l ∈ w.locks) : w.topology.sizes[l.constraint.toNat]? = some l.size := by
  obtain ⟨i, hi⟩ := List.getElem?_of_mem hl
  rw [hw.toNat_constraint hs hi, hw.sizes, List.getElem?_map, hi]
  rfl

end Workshop

end OneSided
