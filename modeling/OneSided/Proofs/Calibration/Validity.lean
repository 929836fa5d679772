import OneSided.Contact.Basic
import OneSided.Friction.Basic
import OneSided.Proofs.Scalar.Order

/-! Calibrations are checked when a model is put together, and default speeds when they
are supplied. Main statement: the laws of restitution and friction then refuse nothing
but a speed that is negative or not a number, and never divide by zero. -/

namespace OneSided

variable {α : Type}

/-- What comes of two steps comes of the second one, after the first has come to something. -/
theorem exists_of_bind_eq_ok {ε β γ : Type} {x : Except ε β} {f : β → Except ε γ} {z : γ}
    (h : x >>= f = .ok z) : ∃ y, x = .ok y ∧ f y = .ok z := by
  cases x with
  | error => cases h
  | ok y => exact ⟨y, rfl, h⟩

theorem Except.map_eq_error_iff {ε β γ : Type} {x : Except ε β} {f : β → γ} {e : ε} :
    x.map f = .error e ↔ x = .error e := by
  cases x <;> simp [Except.map]

variable [Scalar α]

/-! ### Valid calibrations -/

/-- Speeds that the law of restitution accepts. -/
structure ImpactRange.Valid (r : ImpactRange α) : Prop where
  capture : 0 ≤ r.capture
  order : r.capture ≤ r.plateau

/-- A calibration that the law of restitution accepts. -/
structure Restitution.Valid (r : Restitution α) : Prop where
  nonneg : 0 ≤ r.least
  le_one : r.least ≤ 1
  range : ∀ range, r.range = some range → range.Valid

/-- A calibration that the law of friction accepts. -/
structure DryFriction.Valid (f : DryFriction α) : Prop where
  static : 0 ≤ f.static
  dynamic : 0 ≤ f.dynamic
  viscous : 0 ≤ f.viscous
  order : f.dynamic ≤ f.static
  transition : ∀ speed, f.transition = some speed → 0 ≤ speed

/-! ### What an answer tells -/

theorem valid_of_restitution_eq_ok {least capture plateau impact x : α}
    (h : restitution least capture plateau impact = .ok x) :
    (0 ≤ least ∧ least ≤ 1) ∧ (⟨capture, plateau⟩ : ImpactRange α).Valid := by
  unfold restitution at h
  split at h
  · cases h
  rename_i hleast
  split at h
  · cases h
  rename_i hspeeds
  obtain ⟨hcapture, horder⟩ := not_not.1 hspeeds
  exact ⟨not_not.1 hleast, hcapture, horder⟩

theorem valid_of_dryFriction_eq_ok {static dynamic viscous transition slip x : α}
    (h : dryFriction static dynamic viscous transition slip = .ok x) :
    (0 ≤ static ∧ 0 ≤ dynamic ∧ 0 ≤ viscous) ∧ dynamic ≤ static ∧ 0 ≤ transition := by
  unfold dryFriction at h
  split at h
  · cases h
  rename_i hcoefficients
  split at h
  · cases h
  rename_i horder
  split at h
  · cases h
  rename_i hspeeds
  exact ⟨not_not.1 hcoefficients, not_not.1 horder, (not_not.1 hspeeds).1⟩

theorem DryFriction.valid_of_coefficient_eq_ok {f : DryFriction α} {default slip x : α}
    (h : f.coefficient default slip = .ok x) : f.Valid := by
  obtain ⟨⟨hstatic, hdynamic, hviscous⟩, horder, htransition⟩ := valid_of_dryFriction_eq_ok h
  refine ⟨hstatic, hdynamic, hviscous, horder, fun speed hspeed => ?_⟩
  rw [hspeed] at htransition
  exact htransition

/-! ### What the checks let through -/

theorem checkSpeed_eq_ok {of : Quantity} {x : α} {u : Unit} (h : checkSpeed of x = .ok u) :
    Scalar.isFinite x = true ∧ 0 ≤ x := by
  unfold checkSpeed at h
  split at h
  · assumption
  · cases h

variable [Scalar.Ordered α]

theorem DryFriction.checkCoefficient_eq_ok {of : Quantity} {x : α} {u : Unit}
    (h : checkCoefficient of x = .ok u) : Scalar.IsNumber x ∧ 0 ≤ x := by
  unfold checkCoefficient at h
  split at h
  · rename_i hx
    have hnumber := Scalar.Ordered.isNumber_of_isFinite hx.1
    exact ⟨hnumber, Scalar.le_of_not_lt Scalar.zero_le_zero hnumber hx.2⟩
  · cases h

/-- Two speeds that are checked one by one, and then against each other. -/
theorem ImpactRange.valid_of_checks {of of' : Quantity} {capture plateau : α} {u v : Unit}
    (hc : checkSpeed of capture = .ok u) (hp : checkSpeed of' plateau = .ok v)
    (h : ¬plateau < capture) : (⟨capture, plateau⟩ : ImpactRange α).Valid := by
  obtain ⟨hcapture, hnonneg⟩ := checkSpeed_eq_ok hc
  obtain ⟨hplateau, -⟩ := checkSpeed_eq_ok hp
  exact ⟨hnonneg, Scalar.le_of_not_lt (Scalar.Ordered.isNumber_of_isFinite hcapture)
    (Scalar.Ordered.isNumber_of_isFinite hplateau) h⟩

theorem ImpactRange.valid_of_make {capture plateau : α} {range : ImpactRange α}
    (h : make capture plateau = .ok range) : range.Valid := by
  obtain ⟨u, hc, h⟩ := exists_of_bind_eq_ok h
  obtain ⟨v, hp, h⟩ := exists_of_bind_eq_ok h
  split at h
  · cases h
  · rename_i hlt
    cases h
    exact valid_of_checks hc hp hlt

theorem Thresholds.valid_of_check {t : Thresholds α} (h : t.check = .ok ()) :
    t.range.Valid ∧ 0 ≤ t.transition := by
  obtain ⟨u, hc, h⟩ := exists_of_bind_eq_ok h
  obtain ⟨v, hp, h⟩ := exists_of_bind_eq_ok h
  obtain ⟨w, ht, h⟩ := exists_of_bind_eq_ok h
  split at h
  · cases h
  · rename_i hlt
    exact ⟨ImpactRange.valid_of_checks hc hp hlt, (checkSpeed_eq_ok ht).2⟩

/-! ### Calibrated records -/

omit [Scalar.Ordered α] in
/-- The calibrations that can be made, with or without speeds of their own. -/
inductive Restitution.Calibrated : Restitution α → Prop
  | make {least : α} {r : Restitution α} (h : make least = .ok r) : Calibrated r
  | plastic : Calibrated plastic
  | withRange {r : Restitution α} {capture plateau : α} {range : ImpactRange α}
      (hr : Calibrated r) (h : ImpactRange.make capture plateau = .ok range) :
      Calibrated (r.withRange range)

inductive DryFriction.Calibrated : DryFriction α → Prop
  | make {static dynamic viscous : α} {f : DryFriction α}
      (h : make static dynamic viscous = .ok f) : Calibrated f
  | frictionless : Calibrated frictionless
  | withTransition {f f' : DryFriction α} {speed : α} (hf : Calibrated f)
      (h : f.withTransition speed = .ok f') : Calibrated f'

theorem Restitution.Calibrated.valid {r : Restitution α} (hr : r.Calibrated) : r.Valid := by
  induction hr with
  | @make least r h =>
    unfold Restitution.make at h
    split at h
    · rename_i hleast
      cases h
      exact ⟨hleast.1, hleast.2, nofun⟩
    · cases h
  | plastic => exact ⟨Scalar.zero_le_zero, Scalar.Ordered.zero_le_one, nofun⟩
  | withRange _ h ih =>
    refine ⟨ih.nonneg, ih.le_one, fun range hrange => ?_⟩
    cases hrange
    exact ImpactRange.valid_of_make h

theorem DryFriction.Calibrated.valid {f : DryFriction α} (hf : f.Calibrated) : f.Valid := by
  induction hf with
  | @make static dynamic viscous f h =>
    obtain ⟨u, hs, h⟩ := exists_of_bind_eq_ok h
    obtain ⟨v, hd, h⟩ := exists_of_bind_eq_ok h
    obtain ⟨w, hv, h⟩ := exists_of_bind_eq_ok h
    obtain ⟨hstatic, hs⟩ := checkCoefficient_eq_ok hs
    obtain ⟨hdynamic, hd⟩ := checkCoefficient_eq_ok hd
    split at h
    · cases h
    · rename_i hlt
      cases h
      exact ⟨hs, hd, (checkCoefficient_eq_ok hv).2, Scalar.le_of_not_lt hdynamic hstatic hlt, nofun⟩
  | frictionless =>
    exact ⟨Scalar.zero_le_zero, Scalar.zero_le_zero, Scalar.zero_le_zero, Scalar.zero_le_zero,
      nofun⟩
  | withTransition _ h ih =>
    obtain ⟨u, hspeed, h⟩ := exists_of_bind_eq_ok h
    cases h
    refine ⟨ih.static, ih.dynamic, ih.viscous, ih.order, fun speed h => ?_⟩
    cases h
    exact (checkSpeed_eq_ok hspeed).2

/-! ### What the laws refuse -/

/-- The law of restitution with another division in place of the scalar's, one that may
fail. -/
def restitutionOver (div : α → α → Except (Fault α) α) (least capture plateau impact : α) :
    Except (Fault α) α :=
  if ¬(0 ≤ least ∧ least ≤ 1) then .error (.leastRestitution least)
  else if ¬(0 ≤ capture ∧ capture ≤ plateau) then .error (.captureSpeed capture plateau)
  else if ¬0 ≤ impact then .error (.impactSpeed impact)
  else if impact ≤ capture then .ok 0
  else if plateau ≤ impact then .ok least
  else return 1 - (← div (1 - least) plateau) * impact

omit [Scalar.Ordered α] in
theorem restitution_eq_over (least capture plateau impact : α) :
    restitution least capture plateau impact =
      restitutionOver (fun x y => .ok (x / y)) least capture plateau impact := rfl

/-- The law only comes to divide when the impact is slower than the plateau speed and faster
than the capture speed, so the plateau speed is above zero. -/
theorem restitutionOver_eq {div : α → α → Except (Fault α) α}
    (hdiv : ∀ x y, 0 < y → div x y = .ok (x / y)) (least capture plateau impact : α) :
    restitutionOver div least capture plateau impact =
      restitution least capture plateau impact := by
  rw [restitution_eq_over]
  unfold restitutionOver
  split_ifs with _ hspeeds himpact hcapture hplateau <;> try rfl
  have hnumber := (Scalar.Ordered.isNumber_of_le himpact).2
  have hlt : impact < plateau :=
    Scalar.lt_of_not_le (Scalar.Ordered.isNumber_of_le hspeeds.2).2 hnumber hplateau
  have hpos : 0 < plateau := Scalar.lt_of_le_of_lt himpact hlt
  rw [hdiv _ _ hpos]

def Restitution.coefficientOver (div : α → α → Except (Fault α) α) (r : Restitution α)
    (default : ImpactRange α) (impact : α) : Except (Fault α) α :=
  let range := r.range.getD default
  restitutionOver div r.least range.capture range.plateau impact

variable {r : Restitution α} {default : ImpactRange α} {f : DryFriction α}

omit [Scalar.Ordered α] in
theorem Restitution.Valid.getD_valid (hr : r.Valid) (hd : r.range = none → default.Valid) :
    (r.range.getD default).Valid := by
  cases h : r.range with
  | none => exact hd h
  | some range => exact hr.range range h

omit [Scalar.Ordered α] in
theorem Restitution.coefficient_of_range (h : r.range ≠ none) (d d' : ImpactRange α) (impact : α) :
    r.coefficient d impact = r.coefficient d' impact := by
  obtain ⟨range, hrange⟩ := Option.ne_none_iff_exists'.1 h
  simp only [coefficient, hrange, Option.getD_some]

omit [Scalar.Ordered α] in
theorem DryFriction.coefficient_of_transition (h : f.transition ≠ none) (d d' slip : α) :
    f.coefficient d slip = f.coefficient d' slip := by
  obtain ⟨speed, hspeed⟩ := Option.ne_none_iff_exists'.1 h
  simp only [coefficient, hspeed, Option.getD_some]

omit [Scalar.Ordered α] in
/-- Among valid speeds the law refuses an impact that is not at least zero, and nothing
else. -/
theorem Restitution.Valid.coefficient_eq_error_iff (hr : r.Valid)
    (hd : r.range = none → default.Valid) {impact : α} {fault : Fault α} :
    r.coefficient default impact = .error fault ↔ ¬0 ≤ impact ∧ fault = .impactSpeed impact := by
  have hrange := hr.getD_valid hd
  rw [coefficient, restitution, if_neg (not_not_intro ⟨hr.nonneg, hr.le_one⟩),
    if_neg (not_not_intro ⟨hrange.capture, hrange.order⟩)]
  by_cases himpact : 0 ≤ impact
  · rw [if_neg (not_not_intro himpact)]
    simp only [himpact, not_true_eq_false, false_and, iff_false]
    split_ifs <;> exact nofun
  · rw [if_pos himpact]
    simp [himpact, eq_comm]

omit [Scalar.Ordered α] in
theorem DryFriction.Valid.coefficient_eq_error_iff (hf : f.Valid) {transition slip : α}
    (ht : f.transition = none → 0 ≤ transition) {fault : Fault α} :
    f.coefficient transition slip = .error fault ↔
      ¬0 ≤ slip ∧ fault = .slipSpeed (f.transition.getD transition) slip := by
  have htransition : 0 ≤ f.transition.getD transition := by
    cases h : f.transition with
    | none => exact ht h
    | some speed => exact hf.transition speed h
  rw [coefficient, dryFriction, if_neg (not_not_intro ⟨hf.static, hf.dynamic, hf.viscous⟩),
    if_neg (not_not_intro hf.order)]
  by_cases hslip : 0 ≤ slip
  · simp [htransition, hslip]
  · simp [htransition, hslip, eq_comm]

/-! ### Elements with calibrated laws -/

namespace Contact

/-- How a contact rebounds. -/
def rebound : Contact α → Restitution α
  | stop c => c.restitution
  | gliding c => c.restitution
  | gripping c => c.restitution
  | prescribed c => c.restitution

/-- How a contact slips, if it has friction. -/
def grip? : Contact α → Option (DryFriction α)
  | gripping c => some c.friction
  | _ => none

variable {c : Contact α}

omit [Scalar.Ordered α] in
theorem restitution_eq (c : Contact α) (s : State α) (range : ImpactRange α) (impact : α) :
    Unilateral.restitution c s range impact = c.rebound.coefficient range impact := by
  cases c <;> rfl

omit [Scalar.Ordered α] in
theorem restitutionBy_eq (c : Contact α) (s : State α) (t : Thresholds α) (impact : α) :
    Unilateral.restitutionBy c s t impact = c.rebound.coefficient t.range impact :=
  c.restitution_eq s t.range impact

omit [Scalar.Ordered α] in
theorem frictionBy_of_grip (hc : c.grip? = some f) (s : State α) (t : Thresholds α) (slip : α) :
    Unilateral.frictionBy c s t slip = (f.coefficient t.transition slip).map some := by
  cases c with
  | gripping c =>
    cases hc
    change (c.friction.coefficient t.transition slip >>= fun x => pure (some x)) = _
    cases c.friction.coefficient t.transition slip <;> rfl
  | stop | gliding | prescribed => cases hc

omit [Scalar.Ordered α] in
theorem frictionBy_of_none (hc : c.grip? = none) (s : State α) (t : Thresholds α) (slip : α) :
    Unilateral.frictionBy c s t slip = .ok none := by
  cases c with
  | gripping => cases hc
  | stop | gliding | prescribed => rfl

end Contact

/-- Let the calibrations of some elements be among those that can be made, and let the
default speeds have passed their check where an element has none of its own. Then its law
of restitution refuses exactly the impacts that are negative or not a number, its law of
friction refuses exactly such slip speeds, and nothing else is refused. The law of
restitution never divides by anything but a number above zero. An element with speeds of
its own does not look at the defaults. -/
theorem calibrated_laws_refuse_iff (t : Thresholds α) (s : State α) :
    (∀ c : Contact α, c.rebound.Calibrated → (c.rebound.range = none → t.check = .ok ()) →
      ∀ impact,
        (∀ fault, Unilateral.restitutionBy c s t impact = .error fault ↔
          (impact < 0 ∨ ¬Scalar.IsNumber impact) ∧ fault = .impactSpeed impact) ∧
        (∀ div, (∀ x y, 0 < y → div x y = .ok (x / y)) →
          c.rebound.coefficientOver div t.range impact = Unilateral.restitutionBy c s t impact) ∧
        (c.rebound.range ≠ none → ∀ t',
          Unilateral.restitutionBy c s t' impact = Unilateral.restitutionBy c s t impact)) ∧
    (∀ (c : Contact α) (f : DryFriction α), c.grip? = some f → f.Calibrated →
      (f.transition = none → t.check = .ok ()) → ∀ slip,
        (∀ fault, Unilateral.frictionBy c s t slip = .error fault ↔
          (slip < 0 ∨ ¬Scalar.IsNumber slip) ∧
            fault = .slipSpeed (f.transition.getD t.transition) slip) ∧
        (f.transition ≠ none → ∀ t',
          Unilateral.frictionBy c s t' slip = Unilateral.frictionBy c s t slip)) ∧
    (∀ c : Contact α, c.grip? = none → ∀ slip, Unilateral.frictionBy c s t slip = .ok none) ∧
    ∀ j : JointFriction α, j.friction.Calibrated →
      (j.friction.transition = none → t.check = .ok ()) → ∀ slip,
        (∀ fault, LimitedFriction.coefficient j s t.transition slip = .error fault ↔
          (slip < 0 ∨ ¬Scalar.IsNumber slip) ∧
            fault = .slipSpeed (j.friction.transition.getD t.transition) slip) ∧
        (j.friction.transition ≠ none → ∀ t' : Thresholds α,
          LimitedFriction.coefficient j s t'.transition slip =
            LimitedFriction.coefficient j s t.transition slip) := by
  refine ⟨fun c hc ht impact => ⟨fun fault => ?_, fun div hdiv => ?_, fun hown t' => ?_⟩,
    fun c f hg hf ht slip => ⟨fun fault => ?_, fun hown t' => ?_⟩, fun c hc slip => ?_,
    fun j hj ht slip => ⟨fun fault => ?_, fun hown t' => ?_⟩⟩
  · rw [c.restitutionBy_eq, ← Scalar.not_zero_le_iff]
    exact hc.valid.coefficient_eq_error_iff fun h => (Thresholds.valid_of_check (ht h)).1
  · rw [c.restitutionBy_eq]
    exact restitutionOver_eq hdiv _ _ _ _
  · rw [c.restitutionBy_eq, c.restitutionBy_eq]
    exact Restitution.coefficient_of_range hown _ _ impact
  · rw [Contact.frictionBy_of_grip hg, ← Scalar.not_zero_le_iff, Except.map_eq_error_iff]
    exact hf.valid.coefficient_eq_error_iff fun h => (Thresholds.valid_of_check (ht h)).2
  · rw [Contact.frictionBy_of_grip hg, Contact.frictionBy_of_grip hg,
      DryFriction.coefficient_of_transition hown]
  · exact Contact.frictionBy_of_none hc s t slip
  · rw [← Scalar.not_zero_le_iff]
    exact hj.valid.coefficient_eq_error_iff fun h => (Thresholds.valid_of_check (ht h)).2
  · exact DryFriction.coefficient_of_transition hown _ _ slip

/-- A touch that has speeds of its own is asked under defaults that are not valid, and a
joint under the usual ones. -/
theorem calibrated_laws_refuse_iff_of_touch :
    let plane : Ball Float := ⟨Handle.ground, ⟨.id, 0⟩, ⟨1⟩, 0, 0⟩
    let rebound : Restitution Float := ⟨0.5, some ⟨0, 2⟩⟩
    let friction : DryFriction Float := ⟨1, 0.5, 0, none⟩
    let touch : Contact Float :=
      .gripping ⟨.point, ⟨⟨0⟩, plane⟩, rebound, { friction with transition := some 0 }, none⟩
    let stop : Contact Float :=
      .stop ⟨.upper, ⟨⟨1⟩, 0, 1⟩, 0, 3, .plastic, ⟨⟨1⟩, 0, 3⟩, none⟩
    let joint : JointFriction Float :=
      ⟨⟨⟨1⟩, 0, 1⟩, 0, friction, .constant 4, ⟨⟨2⟩, 0, 0⟩, none⟩
    let usual : Thresholds Float := .usual
    let invalid : Thresholds Float := ⟨0 / 0, -1, -1⟩
    let s : State Float := Topology.empty.allocate
    rebound.Calibrated ∧ friction.Calibrated ∧ usual.check = .ok () ∧
      Unilateral.restitutionBy touch s invalid (-1) = .error (.impactSpeed (-1)) ∧
      Unilateral.restitutionBy touch s invalid (0 / 0) = .error (.impactSpeed (0 / 0)) ∧
      (∀ fault, Unilateral.restitutionBy touch s invalid 1 ≠ .error fault) ∧
      Unilateral.restitutionBy touch s usual 1 = Unilateral.restitutionBy touch s invalid 1 ∧
      Unilateral.frictionBy touch s invalid (-1) = .error (.slipSpeed 0 (-1)) ∧
      Unilateral.frictionBy stop s invalid (-1) = .ok none ∧
      LimitedFriction.coefficient joint s usual.transition (-1) =
        .error (.slipSpeed usual.transition (-1)) := by
  intro plane rebound friction touch stop joint usual invalid s
  have hleast : Restitution.make (0.5 : Float) = .ok ⟨0.5, none⟩ := rfl
  have hrange : ImpactRange.make (0 : Float) 2 = .ok ⟨0, 2⟩ := rfl
  have hcoefficients : DryFriction.make (1 : Float) 0.5 0 = .ok friction := rfl
  have htransition : friction.withTransition 0 = .ok { friction with transition := some 0 } := rfl
  have hrebound : rebound.Calibrated := .withRange (.make hleast) hrange
  have hfriction : friction.Calibrated := .make hcoefficients
  have husual : (Thresholds.usual : Thresholds Float).check = .ok () := rfl
  have hnan : ¬Scalar.IsNumber (0 / 0 : Float) := by
    rw [isNumber_float]
    decide
  obtain ⟨hrestitution, hgrip, hnone, -⟩ := calibrated_laws_refuse_iff invalid s
  obtain ⟨-, -, -, hjoint⟩ := calibrated_laws_refuse_iff usual s
  have htouch := hrestitution touch hrebound nofun
  have hslip := hgrip touch _ rfl (.withTransition hfriction htransition) nofun (-1)
  refine ⟨hrebound, hfriction, husual, ?_, ?_, fun fault h => ?_, ?_, ?_, hnone stop rfl (-1), ?_⟩
  · exact ((htouch (-1)).1 _).2 ⟨.inl (by decide), rfl⟩
  · exact ((htouch (0 / 0)).1 _).2 ⟨.inr hnan, rfl⟩
  · rcases (((htouch 1).1 fault).1 h).1 with hneg | hno
    · exact absurd hneg (by decide)
    · exact hno (by rw [isNumber_float]; decide)
  · exact (htouch 1).2.2 nofun usual
  · exact (hslip.1 _).2 ⟨.inl (by decide), rfl⟩
  · exact ((hjoint joint hfriction (fun _ => husual) (-1)).1 _).2 ⟨.inl (by decide), rfl⟩

end OneSided
