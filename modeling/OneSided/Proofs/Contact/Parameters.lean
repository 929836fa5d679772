import OneSided.Proofs.Assembly.Workshop

/-! What is known of the parameters of a contact once it has been made. A stop has a finite
limit on an existing coordinate, and a touch has a plane of finite height and a ball whose
radius is finite and at least zero. Where the centre of the ball is on its body, nobody asks.
Main statement: a contact has all its parameters in order exactly if its station was finite
when it was given, and whatever else is given as a station is accepted as well. -/

namespace OneSided

variable {α : Type} [Scalar α]

def Vec3.IsFinite (v : Vec3 α) : Prop :=
  Scalar.isFinite v.x ∧ Scalar.isFinite v.y ∧ Scalar.isFinite v.z

namespace Contact

/-- What is checked of the parameters of a contact, as it keeps them. -/
def Checked : Contact α → Prop
  | stop c => Scalar.isFinite c.limit ∧ c.which < c.body.count ∧
      c.lock.value = c.limit ∧ c.lock.place = c.body.first + c.which
  | gliding c => Ball.Valid c.lock.ball.plane.height c.lock.ball.radius
  | gripping c => Ball.Valid c.lock.ball.plane.height c.lock.ball.radius
  | prescribed _ => True

omit [Scalar α] in
/-- The centre of the ball that touches a plane. -/
def station? (c : Contact α) : Option (Vec3 α) := (c.lock?.bind Lock.ball?).map Ball.centre

/-- All parameters of the contact are in order, and its station is finite as well. -/
structure Sound (c : Contact α) : Prop where
  checked : c.Checked
  station : ∀ v, c.station? = some v → v.IsFinite

omit [Scalar α] in
/-- The contact with its ball at another station. -/
def withStation (v : Vec3 α) : Contact α → Contact α
  | gliding c => .gliding { c with lock.ball.centre := v }
  | gripping c => .gripping { c with lock.ball.centre := v }
  | c => c

end Contact

namespace Part

omit [Scalar α] in
/-- The station that a constructor is given. -/
def station? : Part α → Option (Vec3 α)
  | glidingTouch _ _ _ _ v _ | grippingPoint _ _ _ _ v _ _ | grippingSphere _ _ _ _ v _ _ _ =>
    some v
  | _ => none

omit [Scalar α] in
/-- The same call with another station. -/
def withStation (v : Vec3 α) : Part α → Part α
  | glidingTouch base normal height follower _ restitution =>
    glidingTouch base normal height follower v restitution
  | grippingPoint base normal height follower _ restitution friction =>
    grippingPoint base normal height follower v restitution friction
  | grippingSphere base normal height follower _ radius restitution friction =>
    grippingSphere base normal height follower v radius restitution friction
  | p => p

end Part

/-! ### Balls -/

namespace Ball

variable {base follower : Handle .body} {normal centre : Vec3 α} {height radius : α} {g : Ball α}

theorem make_of_valid (h : Valid height radius) :
    make base normal height follower centre radius =
      .ok ⟨base, ⟨(Rotation.between .ez normal).getD (.about .ex Scalar.pi), height⟩, follower,
        centre, radius⟩ := by
  have hradius : checkRadius radius = .ok () := if_pos h.2
  have hplane : checkPlace .planeHeight height = .ok () := if_pos h.1
  simp only [make, HalfSpace.make, hradius, hplane]
  rfl

theorem valid_of_make (h : make base normal height follower centre radius = .ok g) :
    Valid g.plane.height g.radius ∧ g.centre = centre := by
  have hv : Valid height radius := make_isOk.1 ⟨g, h⟩
  rw [make_of_valid hv] at h
  cases h
  exact ⟨hv, rfl⟩

/-- Whether a ball is made does not depend on its centre. -/
theorem make_withCentre (h : make base normal height follower centre radius = .ok g)
    (v : Vec3 α) : make base normal height follower v radius = .ok { g with centre := v } := by
  have hv : Valid height radius := make_isOk.1 ⟨g, h⟩
  rw [make_of_valid hv] at h ⊢
  cases h
  rfl

end Ball

/-! ### Touches -/

theorem GlidingTouch.make_eq_ok {t t' : Topology} {base follower : Mobilizer} {normal point : Vec3 α}
    {height : α} {restitution : Restitution α} {c : GlidingTouch α} :
    make t base normal height follower point restitution = .ok (c, t') ↔
      ∃ g, Ball.make base.handle normal height follower.handle point 0 = .ok g ∧
        c = ⟨⟨(t.addConstraint 1).1, g⟩, restitution, none⟩ ∧ t' = (t.addConstraint 1).2 := by
  unfold make construct
  cases Ball.make base.handle normal height follower.handle point 0 with
  | error r => exact ⟨nofun, nofun⟩
  | ok g =>
    constructor
    · rintro h
      cases h
      exact ⟨g, rfl, rfl, rfl⟩
    · rintro ⟨_, ⟨⟩, rfl, rfl⟩
      rfl

theorem GrippingTouch.make_eq_ok {t t' : Topology} {shape : Shape} {base follower : Mobilizer}
    {normal centre : Vec3 α} {height radius : α} {restitution : Restitution α}
    {friction : DryFriction α} {c : GrippingTouch α} :
    make t shape base normal height follower centre radius restitution friction = .ok (c, t') ↔
      ∃ g, Ball.make base.handle normal height follower.handle centre radius = .ok g ∧
        c = ⟨shape, ⟨(t.addConstraint 3).1, g⟩, restitution, friction, none⟩ ∧
        t' = (t.addConstraint 3).2 := by
  unfold make construct
  cases Ball.make base.handle normal height follower.handle centre radius with
  | error r => exact ⟨nofun, nofun⟩
  | ok g =>
    constructor
    · rintro h
      cases h
      exact ⟨g, rfl, rfl, rfl⟩
    · rintro ⟨_, ⟨⟩, rfl, rfl⟩
      rfl

/-! ### Contacts -/

omit [Scalar α] in
theorem Part.wrap_eq_ok {κ : Type} {f : κ → Element α} {x : Except (Rejection α) (κ × Topology)}
    {e : Element α} {t : Topology} :
    wrap f x = .ok (e, t) ↔ ∃ k, x = .ok (k, t) ∧ e = f k := by
  cases x with
  | error r => exact ⟨nofun, nofun⟩
  | ok y =>
    constructor
    · intro h
      cases h
      exact ⟨y.1, rfl, rfl⟩
    · rintro ⟨k, ⟨⟩, rfl⟩
      rfl

section Made

variable {p : Part α} {t t' : Topology} {c : Contact α}

theorem Contact.checked_of_make (h : p.make t = .ok (.contact c, t')) : c.Checked := by
  cases p with
  | stop =>
    obtain ⟨hp, hy, -⟩ := Part.of_make h
    cases hy
    exact ⟨hp.1, hp.2, rfl, rfl⟩
  | glidingTouch =>
    obtain ⟨k, hk, he⟩ := Part.wrap_eq_ok.1 h
    cases he
    obtain ⟨g, hg, rfl, -⟩ := GlidingTouch.make_eq_ok.1 hk
    exact (Ball.valid_of_make hg).1
  | grippingPoint | grippingSphere =>
    obtain ⟨k, hk, he⟩ := Part.wrap_eq_ok.1 h
    cases he
    obtain ⟨g, hg, rfl, -⟩ := GrippingTouch.make_eq_ok.1 hk
    exact (Ball.valid_of_make hg).1
  | coordinateLock | speedLock | glidingBall | stickingBall | motor | jointFriction =>
    obtain ⟨-, hy, -⟩ := Part.of_make h
    cases hy

/-- A contact keeps the station that its constructor was given. -/
theorem Contact.station_of_make (h : p.make t = .ok (.contact c, t')) :
    c.station? = p.station? := by
  obtain ⟨-, hy, -⟩ := Part.of_make h
  cases p with
  | glidingTouch | grippingPoint | grippingSphere =>
    obtain ⟨plane, he⟩ := hy
    cases he
    rfl
  | _ =>
    cases hy
    try rfl

/-- With any other station the same constructor makes the same contact, apart from its
station. -/
theorem Contact.make_withStation (h : p.make t = .ok (.contact c, t')) (v : Vec3 α) :
    (p.withStation v).make t = .ok (.contact (c.withStation v), t') := by
  cases p with
  | stop =>
    obtain ⟨-, hy, -⟩ := Part.of_make h
    cases hy
    exact h
  | glidingTouch =>
    obtain ⟨k, hk, he⟩ := Part.wrap_eq_ok.1 h
    cases he
    obtain ⟨g, hg, rfl, rfl⟩ := GlidingTouch.make_eq_ok.1 hk
    exact Part.wrap_eq_ok.2
      ⟨_, GlidingTouch.make_eq_ok.2 ⟨_, Ball.make_withCentre hg v, rfl, rfl⟩, rfl⟩
  | grippingPoint | grippingSphere =>
    obtain ⟨k, hk, he⟩ := Part.wrap_eq_ok.1 h
    cases he
    obtain ⟨g, hg, rfl, rfl⟩ := GrippingTouch.make_eq_ok.1 hk
    exact Part.wrap_eq_ok.2
      ⟨_, GrippingTouch.make_eq_ok.2 ⟨_, Ball.make_withCentre hg v, rfl, rfl⟩, rfl⟩
  | coordinateLock | speedLock | glidingBall | stickingBall | motor | jointFriction =>
    obtain ⟨-, hy, -⟩ := Part.of_make h
    cases hy

end Made

/-- Let a constructor have made a contact. Then the limit and the coordinate of a stop, and
the height and the radius of a touch, are in order. The station is kept as it was given, so
that all parameters are in order exactly if the given station was finite; and with any other
station in its place, finite or not, the constructor makes the contact just as well. -/
theorem contact_sound_iff_station {p : Part α} {t t' : Topology} {c : Contact α}
    (h : p.make t = .ok (.contact c, t')) :
    c.Checked ∧ c.station? = p.station? ∧
      (c.Sound ↔ ∀ v, p.station? = some v → v.IsFinite) ∧
      ∀ v, (p.withStation v).make t = .ok (.contact (c.withStation v), t') := by
  have hchecked := Contact.checked_of_make h
  have hstation := Contact.station_of_make h
  refine ⟨hchecked, hstation, ⟨fun hs => ?_, fun hv => ⟨hchecked, ?_⟩⟩,
    Contact.make_withStation h⟩
  · rw [← hstation]
    exact hs.station
  · rw [hstation]
    exact hv

/-- A sphere of radius one half on a plane of height one, first with its centre at the origin
of its body, then with a centre that is nowhere. -/
theorem contact_sound_iff_station_of_sphere :
    let base : Mobilizer := ⟨Handle.ground, 0, 0⟩
    let sphere (v : Vec3 Float) : Part Float :=
      .grippingSphere base .ez 1 ⟨⟨1⟩, 0, 1⟩ v 0.5 .plastic .frictionless
    let nowhere : Vec3 Float := ⟨0 / 0, 0, 0⟩
    ∃ c t', (sphere 0).make .empty = .ok (.contact c, t') ∧ c.Sound ∧
      (sphere nowhere).make .empty = .ok (.contact (c.withStation nowhere), t') ∧
      (c.withStation nowhere).Checked ∧ ¬(c.withStation nowhere).Sound := by
  intro base sphere nowhere
  have hmake : (sphere 0).make .empty = .ok (.contact (.gripping ⟨.sphere, ⟨⟨0⟩, ⟨Handle.ground,
      ⟨(Rotation.between .ez .ez).getD (.about .ex Scalar.pi), 1⟩, ⟨1⟩, 0, 0.5⟩⟩, .plastic,
      .frictionless, none⟩), (Topology.empty.addConstraint 3).2) := rfl
  obtain ⟨-, -, hsound, hother⟩ := contact_sound_iff_station hmake
  have hfinite : (0 : Vec3 Float).IsFinite := ⟨by decide, by decide, by decide⟩
  have hnowhere := hother nowhere
  obtain ⟨hchecked, -, hsound', -⟩ := contact_sound_iff_station hnowhere
  refine ⟨_, _, hmake, hsound.2 ?_, hnowhere, hchecked, fun hs => ?_⟩
  · rintro v ⟨⟩
    exact hfinite
  · exact absurd (hsound'.1 hs nowhere rfl).1 (by decide)

/-- A point that is nowhere is accepted, and its error is not a number before anything has
moved. -/
theorem station_unchecked :
    let t := (Workshop.build [.body 1] : Workshop Float).topology
    let point : Part Float :=
      .glidingTouch ⟨Handle.ground, 0, 0⟩ .ez 0 ⟨⟨1⟩, 0, 1⟩ ⟨0 / 0, 0, 0⟩ .plastic
    ∃ c t', point.make t = .ok (.contact c, t') ∧ ¬c.Sound ∧
      ∃ x, Unilateral.positionError c (t'.allocate : State Float) = .ok x ∧ x.isNaN = true := by
  intro t point
  refine ⟨_, _, rfl, fun hs => ?_, _, rfl, ?_⟩
  · exact absurd (hs.station _ rfl).1 (by decide)
  · decide +kernel

end OneSided
