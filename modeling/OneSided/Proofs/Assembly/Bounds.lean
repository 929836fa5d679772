import OneSided.Proofs.Assembly.Shares
import OneSided.Proofs.Contact.Observation
import OneSided.Proofs.State.Answer

/-! Elements stay inside a topology. An element remembers the entries, bodies and constraint
that it was made with, and a topology never loses one. Main statements: a constructor that
is called with bodies of a topology makes an element inside it, and the element stays inside
as the topology grows and the element is registered. -/

namespace OneSided

variable {α : Type}

/-! ### Inside a topology -/

/-- The topology has both bodies of a ball. -/
structure Ball.Within (g : Ball α) (t : Topology) : Prop where
  base : g.base.toNat < t.bodies.length
  follower : g.follower.toNat < t.bodies.length

theorem Ball.Within.measure {g : Ball α} {t : Topology} {s : State α} {β : Type} (h : g.Within t)
    (hs : t.Fits s) (m : Ball α → Motion α → Motion α → β) : Answered (g.measure s m) :=
  (hs.motion h.base).bind fun b => (hs.motion h.follower).map (m g b)

/-- The topology has the constraint of a lock, and the entry or the bodies that it is about. -/
def Lock.Within (l : Lock α) (t : Topology) : Prop :=
  l.constraint.toNat < t.sizes.length ∧
    match l with
    | coordinate l => l.place < t.coordinates
    | speed l => l.place < t.coordinates
    | gliding l => l.ball.Within t
    | sticking l => l.ball.Within t

/-- The topology has all that an element looks at: stops and motors also ask their bodies. -/
structure Element.Within (e : Element α) (t : Topology) : Prop where
  lock : ∀ l, e.lock? = some l → l.Within t
  stop : ∀ c, e = .contact (.stop c) → c.Coherent ∧ c.body.Within t
  motor : ∀ m, e = .drive (.motor m) → m.which < m.body.count ∧ m.body.Within t

section Growing

variable {t t' : Topology}

theorem Ball.Within.mono {g : Ball α} (h : g.Within t) (ht : t.GrowsTo t') : g.Within t' :=
  ⟨Nat.lt_of_lt_of_le h.base ht.bodies.length_le,
    Nat.lt_of_lt_of_le h.follower ht.bodies.length_le⟩

theorem Lock.Within.mono {l : Lock α} (h : l.Within t) (ht : t.GrowsTo t') : l.Within t' := by
  refine ⟨Nat.lt_of_lt_of_le h.1 ht.sizes.length_le, ?_⟩
  cases l with
  | coordinate | speed => exact Nat.lt_of_lt_of_le h.2 ht.coordinates
  | gliding | sticking => exact Ball.Within.mono h.2 ht

theorem Element.Within.mono {e : Element α} (h : e.Within t) (ht : t.GrowsTo t') : e.Within t' where
  lock l hl := (h.lock l hl).mono ht
  stop c hc := ⟨(h.stop c hc).1, (h.stop c hc).2.mono ht⟩
  motor m hm := ⟨(h.motor m hm).1, (h.motor m hm).2.mono ht⟩

end Growing

/-- A constraint is among those of the topology that it was added to. -/
theorem Topology.addConstraint_lt (t : Topology) (n : Nat) :
    (t.addConstraint n).1.toNat < (t.addConstraint n).2.sizes.length := by
  rw [addConstraint, List.length_append, List.length_singleton]
  exact Nat.lt_succ_of_le (Handle.toNat_ofNat_le _)

/-! ### Elements that a constructor has made -/

/-- The call names bodies of the topology only. -/
def Part.Local (p : Part α) (t : Topology) : Prop :=
  match p with
  | coordinateLock body _ _ | speedLock body _ _ | stop _ body _ _ _ | motor body _ _ _
  | jointFriction body _ _ _ => body ∈ t.bodies
  | glidingBall ball | stickingBall ball =>
    (∃ m ∈ t.bodies, m.handle = ball.base) ∧ ∃ m ∈ t.bodies, m.handle = ball.follower
  | glidingTouch base _ _ follower _ _ | grippingPoint base _ _ follower _ _ _
  | grippingSphere base _ _ follower _ _ _ _ => base ∈ t.bodies ∧ follower ∈ t.bodies

variable [Scalar α]

section Making

variable {t t' : Topology} {p : Part α} {e : Element α}

omit [Scalar α] in
theorem Element.Within.of_lock {l : Lock α} (hl : e.lock? = some l) (h : l.Within t)
    (hstop : ∀ c, e = .contact (.stop c) → c.Coherent ∧ c.body.Within t)
    (hmotor : ∀ m, e = .drive (.motor m) → m.which < m.body.count ∧ m.body.Within t) :
    e.Within t where
  lock k hk := by
    cases hl.symm.trans hk
    exact h
  stop := hstop
  motor := hmotor

/-- A constructor that is called with bodies of the topology makes an element inside it. -/
theorem Part.within_of_make (ht : t.Laid) (hl : p.Local t) (he : p.make t = .ok (e, t')) :
    e.Within t' := by
  obtain ⟨hp, hy, rfl⟩ := of_make he
  -- The element is around the new constraint; its bodies were there before.
  have hc := t.addConstraint_lt p.size
  have hbody : ∀ m ∈ t.bodies, m.Within (t.addConstraint p.size).2 := fun m hm =>
    (ht.within hm).mono (.addConstraint ..)
  have hplace : ∀ m ∈ t.bodies, ∀ which < m.count,
      m.first + which < (t.addConstraint p.size).2.coordinates := fun m hm which hw =>
    (hbody m hm).place_lt (α := α) (Mobilizer.place_eq_ok.2 ⟨hw, rfl⟩)
  cases p with
  | coordinateLock body which | speedLock body which =>
    cases hy
    exact .of_lock rfl ⟨hc, hplace _ hl _ hp⟩ nofun nofun
  | glidingBall ball | stickingBall ball =>
    cases hy
    obtain ⟨⟨b, hb, hbase⟩, f, hf, hfollower⟩ := hl
    have hball : ball.Within _ := ⟨hbase ▸ (hbody b hb).handle, hfollower ▸ (hbody f hf).handle⟩
    exact .of_lock rfl ⟨hc, hball⟩ nofun nofun
  | stop side body which limit =>
    cases hy
    refine .of_lock rfl ⟨hc, hplace _ hl _ hp.2⟩ (fun c hc => ?_) nofun
    cases hc
    exact ⟨⟨Mobilizer.place_eq_ok.2 ⟨hp.2, rfl⟩, rfl⟩, hbody _ hl⟩
  | glidingTouch | grippingPoint | grippingSphere =>
    obtain ⟨plane, rfl⟩ := hy
    exact .of_lock rfl ⟨hc, (hbody _ hl.1).handle, (hbody _ hl.2).handle⟩ nofun nofun
  | motor body which =>
    cases hy
    refine .of_lock rfl ⟨hc, hplace _ hl _ hp.2.2⟩ nofun fun m hm => ?_
    cases hm
    exact ⟨hp.2.2, hbody _ hl⟩
  | jointFriction body which =>
    cases hy
    exact .of_lock rfl ⟨hc, hplace _ hl _ hp.2⟩ nofun nofun

end Making

/-- A no-load speed is finite and above zero, and replaces the one before. -/
theorem Motor.withNoLoad_eq_ok {m m' : Motor α} {speed : α} :
    m.withNoLoad speed = .ok m' ↔ (Scalar.isFinite speed ∧ 0 ≤ speed) ∧ 0 < speed ∧
      m' = { m with noLoad := some speed } := by
  unfold withNoLoad checkSpeed
  by_cases hs : Scalar.isFinite speed ∧ 0 ≤ speed
  · by_cases hp : 0 < speed <;> simp [hs, hp, bind, Except.bind, eq_comm]
  · simp [hs, bind, Except.bind]

/-- The second element is the first one, as it was made or later: registering an element
gives it a handle, and a motor can be given a no-load speed. -/
inductive Element.Stems (e : Element α) : Element α → Prop
  | self : Stems e e
  | contact {c : Contact α} (h : Handle .contact) (hc : Stems e (.contact c)) :
      Stems e (.contact (Unilateral.withHandle c h))
  | friction {f : FrictionElement α} (h : Handle .friction) (hf : Stems e (.friction f)) :
      Stems e (.friction (LimitedFriction.withHandle f h))
  | drive {d : Drive α} (h : Handle .drive) (hd : Stems e (.drive d)) :
      Stems e (.drive (BoundedDrive.withHandle d h))
  | noLoad {m m' : Motor α} {speed : α} (hm : Stems e (.drive (.motor m)))
      (h : m.withNoLoad speed = .ok m') : Stems e (.drive (.motor m'))

theorem Element.Within.of_stems {t : Topology} {e e' : Element α} (h : e.Within t)
    (he : e.Stems e') : e'.Within t := by
  -- A handle is nothing that an element looks at, and neither is a no-load speed.
  induction he with
  | self => exact h
  | @contact c n _ ih =>
    cases c with
    | stop c =>
      refine .of_lock rfl (ih.lock _ rfl) (fun c' hc' => ?_) nofun
      cases hc'
      obtain ⟨hc, hbody⟩ := ih.stop c rfl
      exact ⟨⟨hc.place, hc.value⟩, hbody⟩
    | gliding | gripping => exact .of_lock rfl (ih.lock _ rfl) nofun nofun
    | prescribed => exact ⟨nofun, nofun, nofun⟩
  | @friction f n _ ih =>
    cases f with
    | joint => exact .of_lock rfl (ih.lock _ rfl) nofun nofun
    | prescribed => exact ⟨nofun, nofun, nofun⟩
  | @drive d n _ ih =>
    cases d with
    | motor m =>
      refine .of_lock rfl (ih.lock _ rfl) nofun fun m' hm' => ?_
      cases hm'
      exact ih.motor m rfl
    | prescribed => exact ⟨nofun, nofun, nofun⟩
  | @noLoad m m' speed _ hm ih =>
    obtain ⟨-, -, rfl⟩ := Motor.withNoLoad_eq_ok.1 hm
    refine .of_lock rfl (ih.lock _ rfl) nofun fun m' hm' => ?_
    cases hm'
    exact ih.motor m rfl

end OneSided
