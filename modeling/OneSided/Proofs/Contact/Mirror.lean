import OneSided.Proofs.Contact.Observation
import OneSided.Proofs.Space.Exact
import OneSided.Proofs.State.Answer
import OneSided.Proofs.State.Reading

/-! Stops on the two sides of a coordinate, in exact arithmetic. What an upper stop is at a
limit, a lower stop is at the negated limit while its coordinate and its multiplier are
negated. Main statement: then their errors and multipliers are negated too, and all that is
counted in the sense of a stop is the same for both, whatever else their assemblies and
states are. -/

namespace OneSided

/-! ### Contacts of opposite senses -/

def Sense.other : Sense → Sense
  | positive => negative
  | negative => positive

@[simp] theorem Sense.other_apply_neg [Grain] (σ : Sense) (x : ℝ) :
    σ.other.apply (-x) = σ.apply x := by
  cases σ
  · exact neg_neg x
  · rfl

section Reflecting

variable {κ κ' : Type} [Unilateral κ ℝ] [Unilateral κ' ℝ] [Grain]

/-- Two contacts tell of opposite motions and forces. What they tell in their senses is
the same. -/
structure Unilateral.Reflects (c : κ) (c' : κ') (s s' : State ℝ) : Prop where
  positionError : positionError c' s' = (positionError c s).map (-·)
  velocityError : velocityError c' s' = (velocityError c s).map (-·)
  accelerationError : accelerationError c' s' = (accelerationError c s).map (-·)
  multiplier : multiplier c' s' = (multiplier c s).map (Option.map (-·))
  isProximal : ∀ margin, isProximal c' s' margin = isProximal c s margin
  separationSpeed : separationSpeed c' s' = separationSpeed c s
  violation : ∀ tol, violation c' s' tol = violation c s tol
  satisfies : ∀ tol, satisfies c' s' tol = satisfies c s tol
  restitution : ∀ range impact, restitution c' s' range impact = restitution c s range impact

namespace Unilateral

variable {c : κ} {c' : κ'} {s s' : State ℝ}

/-- The search for a violated condition looks at the errors and the force in the sense of the
contact, and at a product of two that are both negated. -/
theorem violation_of_opposite (hσ : sense c' = (sense c).other)
    (hp : positionError c' s' = (positionError c s).map (-·))
    (hv : velocityError c' s' = (velocityError c s).map (-·))
    (ha : accelerationError c' s' = (accelerationError c s).map (-·))
    (hm : multiplier c' s' = (multiplier c s).map (Option.map (-·))) (tol : ℝ) :
    violation c' s' tol = violation c s tol := by
  have hforce (m : Option ℝ) : (m.map (-·)).getD 0 = -m.getD 0 := by
    cases m
    · exact neg_zero.symm
    · rfl
  unfold violation
  rw [hσ, hp, hv, ha, hm]
  cases positionError c s with
  | error => rfl
  | ok p =>
    cases velocityError c s with
    | error => simp only [Except.map, bind, Except.bind, Sense.other_apply_neg]
    | ok v =>
      cases accelerationError c s with
      | error => simp only [Except.map, bind, Except.bind, Sense.other_apply_neg]
      | ok a =>
        cases multiplier c s with
        | error => simp only [Except.map, bind, Except.bind, Sense.other_apply_neg]
        | ok m =>
          simp only [Except.map, bind, Except.bind, Sense.other_apply_neg, hforce, neg_mul_neg]

theorem reflects_of_opposite (hσ : sense c' = (sense c).other)
    (hp : positionError c' s' = (positionError c s).map (-·))
    (hv : velocityError c' s' = (velocityError c s).map (-·))
    (ha : accelerationError c' s' = (accelerationError c s).map (-·))
    (hm : multiplier c' s' = (multiplier c s).map (Option.map (-·)))
    (hr : ∀ range impact, restitution c' s' range impact = restitution c s range impact) :
    Reflects c c' s s' where
  positionError := hp
  velocityError := hv
  accelerationError := ha
  multiplier := hm
  isProximal margin := by
    unfold isProximal
    rw [hσ, hp]
    cases positionError c s with
    | error => rfl
    | ok p => simp only [Except.map, bind, Except.bind, Sense.other_apply_neg]
  separationSpeed := by
    unfold separationSpeed
    rw [hσ, hv]
    cases velocityError c s with
    | error => rfl
    | ok v => simp only [Except.map, bind, Except.bind, Sense.other_apply_neg]
  violation := violation_of_opposite hσ hp hv ha hm
  satisfies tol := by
    unfold satisfies
    rw [violation_of_opposite hσ hp hv ha hm]
  restitution := hr

end Unilateral

end Reflecting

/-! ### The multiplier of a stop -/

namespace Stop

variable {α : Type} [Scalar α] {c : Stop α} {t : Topology} {s : State α}

/-- The stop is registered with one multiplier, and all multipliers have handles. -/
structure Registered (c : Stop α) (t : Topology) : Prop where
  addressable : t.Addressable
  size : t.sizes[c.lock.constraint.toNat]? = some 1

theorem Registered.of_holds {steps : List (BuildStep α)}
    (ht : (Workshop.build steps).topology.Addressable)
    (hc : (Workshop.build steps).Holds (.stop c)) :
    c.Registered (Workshop.build steps).topology := by
  refine ⟨ht, ?_⟩
  obtain ⟨k, hk, hc⟩ := hc
  have hlock : k.lock? = some (.coordinate c.lock) := by
    rcases hc with rfl | ⟨h, hc⟩
    · rfl
    · cases k <;> cases hc
      rfl
  have hmem : .coordinate c.lock ∈ (Workshop.build steps).locks :=
    List.mem_filterMap.2 ⟨_, hk, hlock⟩
  exact (Workshop.build_sound steps).size_of_mem ht hmem

omit [Scalar α] in
theorem Registered.exists_isEnabled (hc : c.Registered t) (hs : t.Fits s) :
    ∃ on, s.isEnabled c.lock.constraint = .ok on :=
  hs.isEnabled (List.getElem?_eq_some_iff.1 hc.size).1

/-- While the layout is fresh, an enabled stop reads the first entry of its block. -/
theorem Registered.multiplier_of_enabled (hc : c.Registered t) (hs : t.Fits s)
    (hfresh : s.stale = false) (hon : s.isEnabled c.lock.constraint = .ok true) :
    ∃ b, s.blocks[c.lock.constraint.toNat]? = some (some b) ∧
      Unilateral.multiplier c s = .ok s.multipliers[b.start]? := by
  have hsize : s.sizes[c.lock.constraint.toNat]? = some 1 := hs.sizes ▸ hc.size
  obtain ⟨b, hb, hone⟩ := State.exists_block hsize hon
  -- the entry lies below all multipliers, so that its handle does not wrap
  have hstop := State.stop_le_of_blocks hb
  have hall := hc.addressable.numMultipliers_le hs.sizes
  have hsum : b.stop = b.start + b.size := rfl
  have hhandle : s.multiplierHandle c.lock.constraint 0 = .ok (some (Handle.ofNat (b.start + 0))) :=
    Lock.handle_of_block (l := .coordinate c.lock) ((State.multiplierBlock_of_fresh hfresh).2 hb)
      (by omega) (hone ▸ Nat.one_pos)
  refine ⟨b, hb, ?_⟩
  change (do return s.multiplierAt? (← s.multiplierHandle c.lock.constraint 0)) = _
  rw [hhandle]
  change Except.ok s.multipliers[(Handle.ofNat (b.start + 0)).toNat]? = _
  rw [Handle.toNat_ofNat (by omega), Nat.add_zero]

/-- A stop that is disabled, or whose layout is stale, has no multiplier. -/
theorem multiplier_of_none (h : s.stale = true ∨ s.isEnabled c.lock.constraint = .ok false) :
    Unilateral.multiplier c s = .ok none := by
  have hblock : s.multiplierBlock c.lock.constraint = .ok none := by
    rcases h with hstale | hoff
    · exact State.multiplierBlock_of_stale hstale
    · exact State.multiplierBlock_of_disabled hoff
  exact Element.force_of_none (e := .contact (.stop c)) rfl rfl hblock

end Stop

/-! ### Mirrored stops -/

def Side.other : Side → Side
  | upper => lower
  | lower => upper

namespace Stop

/-- The second stop is on the other side, at the negated limit, and rebounds alike. In the
second state its coordinate and its multiplier are negated, and its switch and the freshness
of the layout are as in the first one. -/
structure Mirrored (c c' : Stop ℝ) (s s' : State ℝ) : Prop where
  side : c'.side = c.side.other
  limit : c'.limit = -c.limit
  restitution : c'.restitution = c.restitution
  coordinate : c'.body.coordinate s' c'.which = (c.body.coordinate s c.which).map (-·)
  speed : c'.body.speed s' c'.which = (c.body.speed s c.which).map (-·)
  rate : c'.body.rate s' c'.which = (c.body.rate s c.which).map (-·)
  enabled : s'.isEnabled c'.lock.constraint = s.isEnabled c.lock.constraint
  stale : s'.stale = s.stale
  multiplier : ∀ b b', s.blocks[c.lock.constraint.toNat]? = some (some b) →
    s'.blocks[c'.lock.constraint.toNat]? = some (some b') →
      s'.multipliers[b'.start]? = s.multipliers[b.start]?.map (-·)

variable {c c' : Stop ℝ} {s s' : State ℝ} {t t' : Topology}

/-- Whether a constraint is missing is told before all else. -/
theorem Mirrored.told (h : c.Mirrored c' s s') {x x' : Except (Fault ℝ) ℝ}
    (hx : x' = x.map (-·)) :
    (do let _ ← s'.isEnabled c'.lock.constraint; x') =
      (do let _ ← s.isEnabled c.lock.constraint; x).map (-·) := by
  rw [h.enabled, hx]
  cases s.isEnabled c.lock.constraint <;> rfl

variable [Grain]

theorem Mirrored.sense (h : c.Mirrored c' s s') :
    Unilateral.sense c' = (Unilateral.sense c).other := by
  change c'.sense = c.sense.other
  rw [Stop.sense, h.side, Stop.sense]
  cases c.side <;> rfl

theorem Mirrored.positionError (h : c.Mirrored c' s s') (hc : c.Coherent) (hc' : c'.Coherent) :
    c'.positionError s' = (c.positionError s).map (-·) := by
  rw [hc.positionError, hc'.positionError, h.limit, h.coordinate]
  refine h.told ?_
  cases c.body.coordinate s c.which with
  | error => rfl
  | ok q =>
    change Except.ok (-q - -c.limit) = Except.ok (-(q - c.limit))
    rw [neg_sub_neg, neg_sub]

theorem Mirrored.multiplier_neg (h : c.Mirrored c' s s') (hc : c.Registered t)
    (hc' : c'.Registered t') (hs : t.Fits s) (hs' : t'.Fits s') :
    Unilateral.multiplier c' s' = (Unilateral.multiplier c s).map (Option.map (-·)) := by
  obtain ⟨on, hon⟩ := hc.exists_isEnabled hs
  by_cases hnone : s.stale = true ∨ on = false
  · have hfirst : s.stale = true ∨ s.isEnabled c.lock.constraint = .ok false :=
      hnone.imp_right fun hoff => hon.trans (congrArg _ hoff)
    have hsecond : s'.stale = true ∨ s'.isEnabled c'.lock.constraint = .ok false := by
      rwa [h.stale, h.enabled]
    rw [multiplier_of_none hfirst, multiplier_of_none hsecond]
    rfl
  · obtain ⟨hfresh, rfl⟩ : s.stale = false ∧ on = true := by simpa using hnone
    obtain ⟨b, hb, hm⟩ := hc.multiplier_of_enabled hs hfresh hon
    obtain ⟨b', hb', hm'⟩ :=
      hc'.multiplier_of_enabled hs' (h.stale.trans hfresh) (h.enabled.trans hon)
    rw [hm, hm', h.multiplier b b' hb hb']
    rfl

theorem Mirrored.reflects (h : c.Mirrored c' s s') (hc : c.Coherent) (hc' : c'.Coherent)
    (hreg : c.Registered t) (hreg' : c'.Registered t') (hs : t.Fits s) (hs' : t'.Fits s') :
    Unilateral.Reflects c c' s s' := by
  refine Unilateral.reflects_of_opposite h.sense (h.positionError hc hc') ?_ ?_
    (h.multiplier_neg hreg hreg' hs hs') fun range impact => ?_
  · change c'.velocityError s' = (c.velocityError s).map (-·)
    rw [hc.velocityError, hc'.velocityError]
    exact h.told h.speed
  · change c'.accelerationError s' = (c.accelerationError s).map (-·)
    rw [hc.accelerationError, hc'.accelerationError]
    exact h.told h.rate
  · change c'.restitution.coefficient range impact = c.restitution.coefficient range impact
    rw [h.restitution]

end Stop

/-! ### The mirror of a stop -/

/-- The stop on the other side of the same coordinate, at the negated limit. -/
def Stop.mirror (c : Stop ℝ) : Stop ℝ :=
  { c with
    side := c.side.other
    limit := -c.limit
    lock := { c.lock with value := -c.lock.value } }

/-- The state with the coordinate and the multiplier of a stop negated. -/
def State.mirror (s : State ℝ) (c : Stop ℝ) : State ℝ :=
  { s with
    q := s.q.modify c.lock.place (-·)
    u := s.u.modify c.lock.place (-·)
    udot := s.udot.modify c.lock.place (-·)
    multipliers :=
      s.multipliers.modify (Slot.total (s.slots.take c.lock.constraint.toNat)) (-·) }

theorem Fault.fetch_modify {α β : Type} (xs : List β) (i : Nat) (f : β → β) :
    (fetch (xs.modify i f) i : Except (Fault α) β) = (fetch xs i).map f := by
  unfold fetch
  rw [List.getElem?_modify_eq]
  cases xs[i]? <;> rfl

theorem State.start_of_blocks {α : Type} {s : State α} {i : Nat} {b : Block}
    (h : s.blocks[i]? = some (some b)) : b.start = Slot.total (s.slots.take i) := by
  rw [blocks, Slot.getElem?_blocksFrom] at h
  obtain ⟨a, -, ha⟩ := Option.map_eq_some_iff.1 h
  split at ha <;> cases ha
  exact Nat.zero_add _

namespace Stop

variable {c : Stop ℝ} {s : State ℝ} {t : Topology}

/-- With the other side and the negated limit a constructor makes the mirrored stop. -/
theorem make_other [Grain] (t : Topology) (side : Side) (body : Mobilizer) (which : Nat)
    (limit : ℝ) (restitution : Restitution ℝ) :
    make t side.other body which (-limit) restitution =
      (make t side body which limit restitution).map (Prod.map mirror id) := by
  have hfinite (x : ℝ) : checkPlace .coordinateLimit x = .ok () := if_pos rfl
  unfold make construct CoordinateLock.construct Mobilizer.place
  rw [hfinite, hfinite]
  split <;> rfl

theorem Coherent.mirror (hc : c.Coherent) : c.mirror.Coherent :=
  ⟨hc.place, congrArg (-·) hc.value⟩

theorem Coherent.mirrored (hc : c.Coherent) (s : State ℝ) :
    c.Mirrored c.mirror s (s.mirror c) := by
  obtain ⟨hq, hu, hr⟩ := hc.entries s
  obtain ⟨hq', hu', hr'⟩ := hc.mirror.entries (s.mirror c)
  constructor
  case coordinate => exact hq'.trans ((Fault.fetch_modify _ _ _).trans (congrArg _ hq.symm))
  case speed => exact hu'.trans ((Fault.fetch_modify _ _ _).trans (congrArg _ hu.symm))
  case rate => exact hr'.trans ((Fault.fetch_modify _ _ _).trans (congrArg _ hr.symm))
  case multiplier =>
    intro b b' hb hb'
    obtain rfl : b = b' := Option.some.inj (Option.some.inj (hb.symm.trans hb'))
    rw [State.start_of_blocks hb]
    exact List.getElem?_modify_eq ..
  all_goals rfl

theorem fits_mirror (hs : t.Fits s) (c : Stop ℝ) : t.Fits (s.mirror c) :=
  ⟨(List.length_modify ..).trans hs.q, (List.length_modify ..).trans hs.u,
    (List.length_modify ..).trans hs.udot, hs.motions, hs.sizes⟩

end Stop

/-- Stops on the two sides of a coordinate, in exact arithmetic. A stop of an assembly and one
of the other side at the negated limit, of the same assembly or another one, tell of opposite
motions and forces in states that are mirrored for them, and what they tell in their senses
is the same. Every stop and every state have such a mirror: with the other side and the
negated limit a constructor makes the mirrored stop. -/
theorem stops_mirror [Grain] (steps : List (BuildStep ℝ))
    (ht : (Workshop.build steps).topology.Addressable) {c : Stop ℝ}
    (hc : (Workshop.build steps).Holds (.stop c)) {s : State ℝ}
    (hs : (Workshop.build steps).topology.Fits s) :
    (∀ (steps' : List (BuildStep ℝ)) (c' : Stop ℝ) (s' : State ℝ),
      (Workshop.build steps').topology.Addressable → (Workshop.build steps').Holds (.stop c') →
        (Workshop.build steps').topology.Fits s' → c.Mirrored c' s s' →
          Unilateral.Reflects c c' s s') ∧
    (∀ t side body which limit restitution,
      Stop.make t side.other body which (-limit) restitution =
        (Stop.make t side body which limit restitution).map (Prod.map Stop.mirror id)) ∧
    c.Mirrored c.mirror s (s.mirror c) ∧ Unilateral.Reflects c c.mirror s (s.mirror c) := by
  have hcoherent : c.Coherent := hc.coherent
  have hreg := Stop.Registered.of_holds ht hc
  have hmirrored := hcoherent.mirrored s
  refine ⟨fun steps' c' s' ht' hc' hs' h => ?_, Stop.make_other, hmirrored, ?_⟩
  · exact h.reflects hcoherent hc'.coherent hreg (.of_holds ht' hc') hs hs'
  · have hreg' : c.mirror.Registered (Workshop.build steps).topology := ⟨hreg.addressable, hreg.size⟩
    exact hmirrored.reflects hcoherent hcoherent.mirror hreg hreg' hs (Stop.fits_mirror hs c)

/-- An upper stop that pulls past its limit, and a lower stop of another assembly, where a
lock of another coordinate stands before it. -/
theorem stops_mirror_of_locked :
    let _ : Grain := ⟨2⁻¹ ^ 52⟩
    let body : Mobilizer := ⟨⟨1⟩, 0, 1⟩
    let body' : Mobilizer := ⟨⟨1⟩, 0, 2⟩
    let c : Stop ℝ := ⟨.upper, body, 0, 3, .plastic, ⟨⟨0⟩, 0, 3⟩, none⟩
    let c' : Stop ℝ := ⟨.lower, body', 1, -3, .plastic, ⟨⟨1⟩, 1, -3⟩, none⟩
    let steps : List (BuildStep ℝ) := [.body 1, .make (.stop .upper body 0 3 .plastic)]
    let steps' : List (BuildStep ℝ) :=
      [.body 2, .make (.coordinateLock body' 0 1), .make (.stop .lower body' 1 (-3) .plastic)]
    let w := Workshop.build steps
    let w' := Workshop.build steps'
    let s : State ℝ := { (w.topology.allocate : State ℝ) with
      q := [4], u := [2], udot := [5], slots := [⟨1, true, none⟩], multipliers := [7] }
    let s' : State ℝ := { (w'.topology.allocate : State ℝ) with
      q := [6, -4], u := [6, -2], udot := [6, -5],
      slots := [⟨1, true, none⟩, ⟨1, true, none⟩], multipliers := [6, -7] }
    w.topology.Addressable ∧ w.Holds (.stop c) ∧ w.topology.Fits s ∧
      w'.topology.Addressable ∧ w'.Holds (.stop c') ∧ w'.topology.Fits s' ∧
      c.Mirrored c' s s' ∧ Unilateral.multiplier c s = .ok (some 7) ∧
      Unilateral.multiplier c' s' = .ok (some (-7)) ∧
      Unilateral.positionError c s = .ok 1 ∧ Unilateral.positionError c' s' = .ok (-1) ∧
      Unilateral.violation c s 0 = .ok (some .penetration) ∧
      Unilateral.violation c' s' 0 = .ok (some .penetration) ∧
      Unilateral.satisfies c' s' 1 = Unilateral.satisfies c s 1 := by
  intro _ body body' c c' steps steps' w w' s s'
  have ht : w.topology.Addressable := by
    change 1 + 0 ≤ UInt32.size
    decide
  have ht' : w'.topology.Addressable := by
    change 1 + (1 + 0) ≤ UInt32.size
    decide
  have hc : w.Holds (.stop c) := ⟨_, List.mem_cons_self, .inl rfl⟩
  have hc' : w'.Holds (.stop c') := ⟨_, List.mem_cons_of_mem _ List.mem_cons_self, .inl rfl⟩
  have hs : w.topology.Fits s := ⟨rfl, rfl, rfl, rfl, rfl⟩
  have hs' : w'.topology.Fits s' := ⟨rfl, rfl, rfl, rfl, rfl⟩
  have hmirrored : c.Mirrored c' s s' := by
    refine ⟨rfl, rfl, rfl, rfl, rfl, rfl, rfl, rfl, fun b b' hb hb' => ?_⟩
    cases hb
    cases hb'
    rfl
  have hm : Unilateral.multiplier c s = .ok (some 7) := rfl
  have hp : Unilateral.positionError c s = .ok 1 := by
    change Except.ok ((4 : ℝ) - 3) = _
    norm_num
  have hw : Unilateral.violation c s 0 = .ok (some .penetration) := by
    unfold Unilateral.violation
    rw [hp]
    change (if -(1 : ℝ) < -0 then _ else _) = _
    exact if_pos (by norm_num)
  have h := (stops_mirror steps ht hc hs).1 steps' c' s' ht' hc' hs' hmirrored
  refine ⟨ht, hc, hs, ht', hc', hs', hmirrored, hm, ?_, hp, ?_, hw, ?_, h.satisfies 1⟩
  · rw [h.multiplier, hm]
    rfl
  · rw [h.positionError, hp]
    rfl
  · rw [h.violation, hw]

end OneSided
