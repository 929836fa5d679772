import OneSided.Proofs.Assembly.Answers
import OneSided.Proofs.Calibration.Validity
import OneSided.Proofs.State.Reading

/-! How large the force of friction in a joint may be, in exact arithmetic. The limit is the
magnitude of the normal force times the coefficient at the speed of the coordinate. Main
statement: the limit is what the law says, lies between the limits with the dynamic and with
the static coefficient, does not see the signs of speed and normal force, and grows with the
default transition speed; and a joint stays within it unless it is on, laid out, and has a
multiplier that is larger. -/

namespace OneSided

variable {α : Type} [Scalar α]

/-! ### The law -/

theorem DryFriction.Valid.coefficient_eq {f : DryFriction α} (hf : f.Valid) {default slip : α}
    (hdefault : 0 ≤ default) (hslip : 0 ≤ slip) :
    f.coefficient default slip = .ok (f.viscous * slip +
      if slip ≤ f.transition.getD default then f.static else f.dynamic) := by
  have htransition : 0 ≤ f.transition.getD default := by
    cases h : f.transition with
    | none => exact hdefault
    | some speed => exact hf.transition speed h
  rw [coefficient, dryFriction, if_neg (not_not_intro ⟨hf.static, hf.dynamic, hf.viscous⟩),
    if_neg (not_not_intro hf.order), if_neg (not_not_intro ⟨htransition, hslip⟩)]

/-! ### Normal forces -/

namespace NormalForce

omit [Scalar α] in
/-- The force with its sign. -/
def value (n : NormalForce α) (s : State α) : Except (Fault α) α :=
  match n with
  | constant x => .ok x
  | ofState f => f s

/-- The same force the other way. -/
def reversed : NormalForce α → NormalForce α
  | constant x => constant (-x)
  | ofState f => ofState fun s => (f s).map (-·)

theorem magnitude_eq (n : NormalForce α) (s : State α) :
    n.magnitude s = (n.value s).map Scalar.abs := by
  cases n with
  | constant x => rfl
  | ofState f =>
    change (f s >>= fun x => pure (Scalar.abs x)) = (f s).map Scalar.abs
    cases f s <;> rfl

theorem value_reversed (n : NormalForce α) (s : State α) :
    n.reversed.value s = (n.value s).map (-·) := by
  cases n <;> rfl

theorem magnitude_reversed [Grain] (n : NormalForce ℝ) (s : State ℝ) :
    n.reversed.magnitude s = n.magnitude s := by
  rw [magnitude_eq, magnitude_eq, value_reversed]
  cases n.value s with
  | error => rfl
  | ok x => exact congrArg Except.ok (abs_neg x)

end NormalForce

/-! ### Joints that can be made -/

namespace JointFriction

/-- The friction elements that can be made for joints, registered any number of times. -/
inductive Made : JointFriction α → Prop
  | make {t t' : Topology} {body : Mobilizer} {which : Nat} {friction : DryFriction α}
      {normal : NormalForce α} {f : JointFriction α}
      (h : make t body which friction normal = .ok (f, t')) : Made f
  | withHandle {f : JointFriction α} (hf : Made f) (h : Handle .friction) :
      Made (LimitedFriction.withHandle f h)

/-- The lock holds the coordinate of the joint, at rest. -/
structure Coherent (f : JointFriction α) : Prop where
  which : f.which < f.body.count
  place : (f.body.place f.which : Except (Rejection α) Nat) = .ok f.lock.place
  rest : f.lock.speed = 0

theorem coherent_of_make {t t' : Topology} {body : Mobilizer} {which : Nat}
    {friction : DryFriction α} {normal : NormalForce α} {f : JointFriction α}
    (h : make t body which friction normal = .ok (f, t')) : f.Coherent := by
  obtain ⟨hp, rfl, -⟩ := (construct_makes body which friction normal).of_complete h
  exact ⟨hp.2, Mobilizer.place_eq_ok.2 ⟨hp.2, rfl⟩, rfl⟩

theorem Made.coherent {f : JointFriction α} (hf : f.Made) : f.Coherent := by
  induction hf with
  | make h => exact coherent_of_make h
  | withHandle _ h ih => exact ⟨ih.which, ih.place, ih.rest⟩

end JointFriction

/-! ### The decision -/

namespace LimitedFriction

variable {κ : Type} [LimitedFriction κ α] {f : κ} {s : State α} {transition tol x v : α}

theorem holds_of_none (h : force f s = .ok none) : holds f s transition tol = .ok true := by
  rw [holds, h]
  rfl

theorem holds_of_some (h : force f s = .ok (some v)) (hx : limit f s transition = .ok x) :
    holds f s transition tol = .ok (decide (Scalar.abs v ≤ x + tol)) := by
  rw [holds, h]
  change (limit f s transition >>= fun y => pure (decide (Scalar.abs v ≤ y + tol))) = _
  rw [hx]
  rfl

end LimitedFriction

namespace JointFriction

variable {f : JointFriction α} {s : State α} {ledger : Ledger α}

/-- A joint tells no force while it is off or a switch has changed, and that of its own
multiplier otherwise. -/
theorem force_cases (f : JointFriction α) (ht : ledger.Tracks s)
    (hs : s.numMultipliers ≤ UInt32.size) (hsize : s.sizes[f.lock.constraint.toNat]? = some 1) :
    (s.isEnabled f.lock.constraint = .ok false ∨ ledger.switched = true) ∧
      LimitedFriction.force f s = .ok none ∨
    s.isEnabled f.lock.constraint = .ok true ∧ ledger.switched = false ∧
      ∃ k, s.multiplierBlock f.lock.constraint = .ok (some k) ∧
        s.multipliers[k.start]? = some (ledger.value k.start) ∧
        LimitedFriction.force f s = .ok (some (ledger.value k.start)) := by
  have he : (Element.friction (.joint f)).force? = some (LimitedFriction.force f) := rfl
  have hl : (Element.friction (.joint f)).lock? = some (.speed f.lock) := rfl
  obtain ⟨on, hon⟩ : ∃ on, s.isEnabled f.lock.constraint = .ok on := by
    rw [State.sizes, List.getElem?_map, Option.map_eq_some_iff] at hsize
    obtain ⟨a, ha, -⟩ := hsize
    exact ⟨a.enabled, State.isEnabled_eq_ok.2 (by rw [State.flags, List.getElem?_map, ha]; rfl)⟩
  cases hswitch : ledger.switched with
  | true => exact .inl ⟨.inr rfl, Element.force_of_switched he hl ht hswitch⟩
  | false =>
    cases on with
    | false =>
      exact .inl ⟨.inl hon, Element.force_of_none he hl (State.multiplierBlock_of_disabled hon)⟩
    | true =>
      have hstale : s.stale = false := ht.stale.trans hswitch
      obtain ⟨k, hk, hone⟩ := State.exists_block hsize hon
      have hstop := State.stop_le_of_blocks hk
      have hsum : k.stop = k.start + k.size := rfl
      exact .inr ⟨hon, rfl, k, (State.multiplierBlock_of_fresh hstale).2 hk,
        ht.getElem?_multipliers hstale (by omega),
        Element.force_of_block he hl ht hs hswitch hk (Nat.le_of_eq hone.symm)⟩

/-- A joint stays within its limit if it is off, or a switch has changed, or its multiplier is
no larger. -/
theorem holds_iff (ht : ledger.Tracks s) (hs : s.numMultipliers ≤ UInt32.size)
    (hsize : s.sizes[f.lock.constraint.toNat]? = some 1) {transition tol x : α}
    (hx : LimitedFriction.limit f s transition = .ok x) :
    ∃ within, LimitedFriction.holds f s transition tol = .ok within ∧
      (within = true ↔ s.isEnabled f.lock.constraint = .ok false ∨ ledger.switched = true ∨
        ∃ k v, s.multiplierBlock f.lock.constraint = .ok (some k) ∧
          s.multipliers[k.start]? = some v ∧ Scalar.abs v ≤ x + tol) := by
  rcases f.force_cases ht hs hsize with ⟨hoff, hforce⟩ | ⟨hon, hswitch, k, hk, hv, hforce⟩
  · exact ⟨true, LimitedFriction.holds_of_none hforce,
      iff_of_true rfl (hoff.imp_right .inl)⟩
  · refine ⟨_, LimitedFriction.holds_of_some hforce hx, ?_⟩
    rw [decide_eq_true_iff, hon, hswitch]
    constructor
    · exact fun hle => .inr (.inr ⟨k, _, hk, hv, hle⟩)
    · rintro (hoff | hoff | ⟨k', v, hk', hv', hle⟩)
      · cases hoff
      · cases hoff
      · cases hk.symm.trans hk'
        cases hv.symm.trans hv'
        exact hle

end JointFriction

/-! ### Exact limits -/

namespace JointFriction

variable [Grain] {f : JointFriction ℝ} {s : State ℝ} {law : DryFriction ℝ} {d n u : ℝ}

/-- The force that a law of friction allows at a normal force and a speed. -/
noncomputable def limitAt (law : DryFriction ℝ) (d n u : ℝ) : ℝ :=
  |n| * (law.viscous * |u| + if |u| ≤ law.transition.getD d then law.static else law.dynamic)

theorem Coherent.slipSpeed_eq (hc : f.Coherent) (hu : f.body.speed s f.which = .ok u) :
    LimitedFriction.slipSpeed f s = .ok |u| := by
  rw [(Mobilizer.entries_of_place hc.place s).2.1] at hu
  have hexcess : f.lock.excess s = .ok (u - 0) := by
    rw [SpeedLock.excess, hu, hc.rest]
    rfl
  change (f.lock.excess s >>= fun x => pure |x|) = _
  rw [hexcess, sub_zero]
  rfl

theorem Coherent.limit_eq (hc : f.Coherent) (hf : f.friction.Valid) (hd : 0 ≤ d)
    (hu : f.body.speed s f.which = .ok u) (hn : f.normal.value s = .ok n) :
    LimitedFriction.limit f s d = .ok (limitAt f.friction d n u) := by
  have hcoefficient : LimitedFriction.coefficient f s d |u| = .ok _ :=
    hf.coefficient_eq hd (abs_nonneg u)
  have hnormal : LimitedFriction.normalForce f s = .ok |n| := by
    change f.normal.magnitude s = _
    rw [NormalForce.magnitude_eq, hn]
    rfl
  rw [LimitedFriction.limit, hc.slipSpeed_eq hu]
  change (LimitedFriction.coefficient f s d |u| >>= _) = _
  rw [hcoefficient]
  change (LimitedFriction.normalForce f s >>= _) = _
  rw [hnormal, limitAt, mul_comm |n|]
  rfl

/-- A joint has a limit if its law is valid, and no other law tells one. -/
theorem Coherent.limit_eq_ok_iff (hc : f.Coherent) (hd : 0 ≤ d)
    (hu : f.body.speed s f.which = .ok u) (hn : f.normal.value s = .ok n) {x : ℝ} :
    LimitedFriction.limit f s d = .ok x ↔ f.friction.Valid ∧ x = limitAt f.friction d n u := by
  constructor
  · intro hx
    have hlaw : f.friction.Valid := by
      rw [LimitedFriction.limit] at hx
      obtain ⟨slip, -, hx⟩ := exists_of_bind_eq_ok hx
      obtain ⟨c, hcoefficient, -⟩ := exists_of_bind_eq_ok hx
      exact DryFriction.valid_of_coefficient_eq_ok hcoefficient
    cases hx.symm.trans (hc.limit_eq hlaw hd hu hn)
    exact ⟨hlaw, rfl⟩
  · rintro ⟨hlaw, rfl⟩
    exact hc.limit_eq hlaw hd hu hn

theorem limit_reversed (f : JointFriction ℝ) (s : State ℝ) (d : ℝ) :
    LimitedFriction.limit { f with normal := f.normal.reversed } s d =
      LimitedFriction.limit f s d := by
  have hnormal : LimitedFriction.normalForce { f with normal := f.normal.reversed } s =
      LimitedFriction.normalForce f s := f.normal.magnitude_reversed s
  rw [LimitedFriction.limit, hnormal]
  rfl

theorem le_limitAt (hlaw : law.Valid) (d n u : ℝ) :
    |n| * (law.dynamic + law.viscous * |u|) ≤ limitAt law d n u := by
  refine mul_le_mul_of_nonneg_left ?_ (abs_nonneg n)
  rw [add_comm]
  refine add_le_add_right ?_ _
  split
  · exact hlaw.order
  · exact le_rfl

theorem limitAt_le (hlaw : law.Valid) (d n u : ℝ) :
    limitAt law d n u ≤ |n| * (law.static + law.viscous * |u|) := by
  refine mul_le_mul_of_nonneg_left ?_ (abs_nonneg n)
  rw [add_comm law.static]
  refine add_le_add_right ?_ _
  split
  · exact le_rfl
  · exact hlaw.order

theorem limitAt_nonneg (hlaw : law.Valid) (d n u : ℝ) : 0 ≤ limitAt law d n u := by
  have hdynamic : 0 ≤ law.dynamic + law.viscous * |u| :=
    add_nonneg hlaw.dynamic (mul_nonneg hlaw.viscous (abs_nonneg u))
  exact (mul_nonneg (abs_nonneg n) hdynamic).trans (le_limitAt hlaw d n u)

/-- With a larger default the static coefficient lasts at least as long. -/
theorem limitAt_mono (hlaw : law.Valid) {d d' : ℝ} (hd : d ≤ d') (n u : ℝ) :
    limitAt law d n u ≤ limitAt law d' n u := by
  have htransition : law.transition.getD d ≤ law.transition.getD d' := by
    cases law.transition with
    | none => exact hd
    | some => exact le_rfl
  refine mul_le_mul_of_nonneg_left (add_le_add_right ?_ _) (abs_nonneg n)
  split_ifs with hu hu'
  · exact le_rfl
  · exact absurd (hu.trans htransition) hu'
  · exact hlaw.order
  · exact le_rfl

omit [Grain] in
theorem limitAt_congr {n' u' : ℝ} (hn : |n'| = |n|) (hu : |u'| = |u|) :
    limitAt law d n' u' = limitAt law d n u := by
  rw [limitAt, limitAt, hn, hu]

end JointFriction

/-- The limit of the friction in a joint, in whatever state and however the joint was made, in
exact arithmetic. It is told if the law is valid, which all laws are that can be made, and is
then the magnitude of the normal force times the viscous part and the coefficient on whose
side of the transition speed the joint moves, where the transition speed is the law's own one
or else the default. It is not negative, lies between the limits with the dynamic and with the
static coefficient, and stays the same when the speed or the normal force changes its sign; a
larger default does not lower it. All states of an assembly that has the body tell the speed.
In such a state the joint stays within its limit exactly if it is off, or some constraint was
switched since the multipliers were last laid out, or the magnitude of its own multiplier is
at most the limit and the tolerance. -/
theorem friction_limited [Grain] {f : JointFriction ℝ} (hf : f.Made) :
    (∀ (s : State ℝ) (d n u : ℝ), 0 ≤ d → f.body.speed s f.which = .ok u →
      f.normal.value s = .ok n → ∀ x, LimitedFriction.limit f s d = .ok x ↔
        f.friction.Valid ∧ x = JointFriction.limitAt f.friction d n u) ∧
    (f.friction.Calibrated → f.friction.Valid) ∧
    (f.friction.Valid → ∀ d n u : ℝ, 0 ≤ JointFriction.limitAt f.friction d n u ∧
      |n| * (f.friction.dynamic + f.friction.viscous * |u|) ≤
        JointFriction.limitAt f.friction d n u ∧
      JointFriction.limitAt f.friction d n u ≤
        |n| * (f.friction.static + f.friction.viscous * |u|) ∧
      JointFriction.limitAt f.friction d n (-u) = JointFriction.limitAt f.friction d n u ∧
      JointFriction.limitAt f.friction d (-n) u = JointFriction.limitAt f.friction d n u ∧
      ∀ d', d ≤ d' →
        JointFriction.limitAt f.friction d n u ≤ JointFriction.limitAt f.friction d' n u) ∧
    (∀ (s : State ℝ) (d : ℝ),
      LimitedFriction.limit { f with normal := f.normal.reversed } s d =
        LimitedFriction.limit f s d) ∧
    ∀ (steps : List (BuildStep ℝ)) (ops : List (Operation ℝ)),
      let w := Workshop.build steps
      let s := Operation.runAll ops w.topology.allocate
      let ledger := Ledger.blank.after ops w.topology.allocate
      (f.body ∈ w.topology.bodies → ∃ u, f.body.speed s f.which = .ok u) ∧
      (w.topology.Addressable → .speed f.lock ∈ w.locks → ∀ d tol x : ℝ,
        LimitedFriction.limit f s d = .ok x →
        ∃ within, LimitedFriction.holds f s d tol = .ok within ∧
          (within = true ↔ s.isEnabled f.lock.constraint = .ok false ∨ ledger.switched = true ∨
            ∃ k v, s.multiplierBlock f.lock.constraint = .ok (some k) ∧
              s.multipliers[k.start]? = some v ∧ |v| ≤ x + tol)) := by
  have hc : f.Coherent := hf.coherent
  refine ⟨fun s d n u hd hu hn x => hc.limit_eq_ok_iff hd hu hn, fun h => h.valid,
    fun hlaw d n u => ⟨JointFriction.limitAt_nonneg hlaw d n u, JointFriction.le_limitAt hlaw d n u,
      JointFriction.limitAt_le hlaw d n u, JointFriction.limitAt_congr rfl (abs_neg u),
      JointFriction.limitAt_congr (abs_neg n) rfl,
      fun d' hd => JointFriction.limitAt_mono hlaw hd n u⟩,
    f.limit_reversed, fun steps ops => ⟨fun hbody => ?_, fun hw hmem d tol x hx => ?_⟩⟩
  · exact Mobilizer.speed_answered_of_mem hbody hc.which ops
  · have hsizes := Operation.sizes_runAll_allocate (α := ℝ) (Workshop.build steps).topology ops
    have hsize := (Workshop.build_sound steps).size_of_mem hw hmem
    rw [← hsizes] at hsize
    exact JointFriction.holds_iff ((Ledger.Tracks.allocate _).after ops)
      (hw.numMultipliers_le hsizes) hsize hx

/-- A joint that is pressed the harder the faster it turns. While the static coefficient counts
its multiplier is within the limit, and with the dynamic one it is not. -/
theorem friction_limited_of_joint :
    let _ : Grain := ⟨2⁻¹ ^ 52⟩
    let body : Mobilizer := ⟨⟨1⟩, 0, 1⟩
    let law : DryFriction ℝ := ⟨1 / 2, 1 / 4, 1 / 10, none⟩
    let normal : NormalForce ℝ := .ofState fun s => (s.speed 0).map (2 * ·)
    let f : JointFriction ℝ := ⟨body, 0, law, normal, ⟨⟨0⟩, 0, 0⟩, none⟩
    let steps : List (BuildStep ℝ) := [.body 1, .make (.jointFriction body 0 law normal)]
    let w := Workshop.build steps
    let ops : List (Operation ℝ) := [.setSpeed 0 (-3), .switch (.friction (.joint f)) true,
      .realize w.topology .velocity, .setMultiplier 0 (-4)]
    let s := Operation.runAll ops w.topology.allocate
    f.Made ∧ f.friction.Valid ∧ f.body ∈ w.topology.bodies ∧ w.topology.Addressable ∧
      .speed f.lock ∈ w.locks ∧
      LimitedFriction.limit f s 5 = .ok (24 / 5) ∧ LimitedFriction.limit f s 1 = .ok (33 / 10) ∧
      LimitedFriction.holds f s 5 0 = .ok true ∧ LimitedFriction.holds f s 1 0 = .ok false := by
  intro _ body law normal f steps w ops s
  have hmake : JointFriction.make (Topology.empty.addBody 1).2 body 0 law normal =
      .ok (f, ((Topology.empty.addBody 1).2.addConstraint 1).2) := rfl
  have hmade : f.Made := .make hmake
  have hlaw : f.friction.Valid := by
    refine ⟨?_, ?_, ?_, ?_, nofun⟩ <;> norm_num [f, law]
  have hw : w.topology.Addressable := by
    change 1 + 0 ≤ UInt32.size
    decide
  have hbody : f.body ∈ w.topology.bodies := List.mem_cons_of_mem _ List.mem_cons_self
  have hmem : .speed f.lock ∈ w.locks := List.mem_cons_self
  -- the states on the way, written out
  let s₁ : State ℝ := { w.topology.allocate with u := [-3] }
  let s₂ : State ℝ := { s₁ with slots := [⟨1, true, none⟩], stale := true }
  let s₃ : State ℝ := { s₂ with multipliers := [0], stale := false, stage := .velocity }
  let s₄ : State ℝ := { s₃ with multipliers := [-4] }
  have h₁ : ((Operation.setSpeed 0 (-3)).run w.topology.allocate).state = s₁ := rfl
  have h₂ : ((Operation.switch (.friction (.joint f)) true).run s₁).state = s₂ := rfl
  have h₃ : ((Operation.realize w.topology .velocity).run s₂).state = s₃ := rfl
  have h₄ : ((Operation.setMultiplier 0 (-4)).run s₃).state = s₄ := rfl
  have hs : s = s₄ := by
    simp only [s, ops, Operation.runAll_cons, Operation.runAll_nil, h₁, h₂, h₃, h₄]
  obtain ⟨hlimit, -, -, -, hruns⟩ := friction_limited hmade
  obtain ⟨-, hholds⟩ := hruns steps ops
  have hu : f.body.speed s f.which = .ok (-3) := by rw [hs]; rfl
  have hn : f.normal.value s = .ok (2 * -3) := by rw [hs]; rfl
  have hstatic : LimitedFriction.limit f s 5 = .ok (24 / 5) := by
    refine (hlimit s 5 _ _ (by norm_num) hu hn _).2 ⟨hlaw, ?_⟩
    norm_num [JointFriction.limitAt, f, law]
  have hdynamic : LimitedFriction.limit f s 1 = .ok (33 / 10) := by
    refine (hlimit s 1 _ _ (by norm_num) hu hn _).2 ⟨hlaw, ?_⟩
    norm_num [JointFriction.limitAt, f, law]
  have hon : s.isEnabled f.lock.constraint = .ok true := by rw [hs]; rfl
  have hblock : s.multiplierBlock f.lock.constraint = .ok (some ⟨0, 1⟩) := by rw [hs]; rfl
  have hvalue : s.multipliers[(0 : Nat)]? = some (-4) := by rw [hs]; rfl
  have hswitch : (Ledger.blank.after ops w.topology.allocate).switched = false := by
    rw [← ((Ledger.Tracks.allocate _).after ops).stale]
    exact congrArg State.stale hs
  obtain ⟨sticks, hsticks, hiff⟩ := hholds hw hmem 5 0 _ hstatic
  obtain ⟨slips, hslips, hiff'⟩ := hholds hw hmem 1 0 _ hdynamic
  have htrue : sticks = true :=
    hiff.2 (.inr (.inr ⟨⟨0, 1⟩, -4, hblock, hvalue, by norm_num⟩))
  have hfalse : slips = false := by
    refine Bool.eq_false_iff.2 fun hslip => ?_
    rcases hiff'.1 hslip with hoff | hchange | ⟨k, v, hk, hv, hle⟩
    · cases hon.symm.trans hoff
    · cases hswitch.symm.trans hchange
    · cases hblock.symm.trans hk
      cases hvalue.symm.trans hv
      norm_num at hle
  exact ⟨hmade, hlaw, hbody, hw, hmem, hstatic, hdynamic, htrue ▸ hsticks, hfalse ▸ hslips⟩

end OneSided
