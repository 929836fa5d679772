import OneSided.Proofs.Calibration.Validity
import OneSided.Proofs.Document.Lawful

/-! Calibrations that are read. To make one is to have its numbers checked, to read one is
not. Main statement: a record is read whatever finite numbers it holds, and valid numbers are
exactly those with which it could have been made and those with which its law always answers. -/

namespace OneSided

open Document Stored Numbered

variable {α : Type} [Scalar α]

theorem exists_eq_ok_of_ne_error {ε β : Type} {x : Except ε β} (h : ∀ e, x ≠ .error e) :
    ∃ y, x = .ok y := by
  cases x with
  | error e => exact absurd rfl (h e)
  | ok y => exact ⟨y, rfl⟩

theorem checkSpeed_of_valid {x : α} (of : Quantity) (hx : IsFinite x) (hnonneg : 0 ≤ x) :
    checkSpeed of x = .ok () := if_pos ⟨hx, hnonneg⟩

variable [Scalar.Ordered α]

/-! ### Speeds -/

theorem ImpactRange.Valid.make_eq_ok {r : ImpactRange α} (hr : r.Valid) (hfinite : IsFinite r) :
    make r.capture r.plateau = .ok r := by
  have hc := checkSpeed_of_valid .captureSpeed hfinite.1 hr.capture
  have hp := checkSpeed_of_valid .plateauSpeed hfinite.2
    (Scalar.Ordered.le_trans hr.capture hr.order)
  have hlt : ¬r.plateau < r.capture := fun h => Scalar.not_le_of_lt h hr.order
  simp only [make, hc, hp, if_neg hlt]
  rfl

/-! ### Restitution -/

namespace Restitution

variable {r : Restitution α}

theorem Valid.calibrated (hr : r.Valid) (hfinite : IsFinite r) : r.Calibrated := by
  obtain ⟨least, range⟩ := r
  have hmake : Restitution.make least = .ok ⟨least, none⟩ := if_pos ⟨hr.nonneg, hr.le_one⟩
  cases range with
  | none => exact .make hmake
  | some range =>
    have hrange := (hr.range range rfl).make_eq_ok (hfinite.2 range rfl)
    exact .withRange (.make hmake) hrange

/-- The law has an answer to every impact under all valid speeds. -/
def Answers (r : Restitution α) : Prop :=
  ∀ (default : ImpactRange α) (impact : α), default.Valid → 0 ≤ impact →
    ∃ x, r.coefficient default impact = .ok x

theorem answers_iff : r.Answers ↔ r.Valid := by
  constructor
  · intro h
    have hzero : (⟨0, 0⟩ : ImpactRange α).Valid := ⟨Scalar.zero_le_zero, Scalar.zero_le_zero⟩
    obtain ⟨x, hx⟩ := h ⟨0, 0⟩ 0 hzero Scalar.zero_le_zero
    obtain ⟨⟨hnonneg, hone⟩, hvalid⟩ := valid_of_restitution_eq_ok hx
    refine ⟨hnonneg, hone, fun range hrange => ?_⟩
    rw [hrange] at hvalid
    exact hvalid
  · intro hr default impact hd himpact
    refine exists_eq_ok_of_ne_error fun fault h => ?_
    exact ((hr.coefficient_eq_error_iff fun _ => hd).1 h).1 himpact

end Restitution

/-! ### Friction -/

namespace DryFriction

variable {f : DryFriction α}

theorem checkCoefficient_of_valid {x : α} (of : Quantity) (hx : IsFinite x) (hnonneg : 0 ≤ x) :
    checkCoefficient of x = .ok () :=
  if_pos ⟨hx, fun h => Scalar.not_le_of_lt h hnonneg⟩

theorem Valid.calibrated (hf : f.Valid) (hfinite : IsFinite f) : f.Calibrated := by
  obtain ⟨static, dynamic, viscous, transition⟩ := f
  obtain ⟨hstatic, hdynamic, hviscous, htransition⟩ := hfinite
  have hmake : DryFriction.make static dynamic viscous =
      .ok ⟨static, dynamic, viscous, none⟩ := by
    have hs := checkCoefficient_of_valid .staticCoefficient hstatic hf.static
    have hd := checkCoefficient_of_valid .dynamicCoefficient hdynamic hf.dynamic
    have hv := checkCoefficient_of_valid .viscousCoefficient hviscous hf.viscous
    have hlt : ¬static < dynamic := fun h => Scalar.not_le_of_lt h hf.order
    simp only [DryFriction.make, hs, hd, hv, if_neg hlt]
    rfl
  cases transition with
  | none => exact .make hmake
  | some speed =>
    have hspeed := checkSpeed_of_valid .transitionSpeed (htransition speed rfl)
      (hf.transition speed rfl)
    have hown : withTransition ⟨static, dynamic, viscous, none⟩ speed =
        .ok ⟨static, dynamic, viscous, some speed⟩ := by
      simp only [withTransition, hspeed]
      rfl
    exact .withTransition (.make hmake) hown

/-- The law has an answer to every slip speed under all valid transition speeds. -/
def Answers (f : DryFriction α) : Prop :=
  ∀ default slip : α, 0 ≤ default → 0 ≤ slip → ∃ x, f.coefficient default slip = .ok x

theorem answers_iff : f.Answers ↔ f.Valid := by
  constructor
  · intro h
    obtain ⟨x, hx⟩ := h 0 0 Scalar.zero_le_zero Scalar.zero_le_zero
    exact valid_of_coefficient_eq_ok hx
  · intro hf default slip hd hslip
    refine exists_eq_ok_of_ne_error fun fault h => ?_
    exact ((hf.coefficient_eq_error_iff fun _ => hd).1 h).1 hslip

end DryFriction

/-- A pair of speeds, a law of restitution and a law of friction are read from their documents,
however these are restated, whatever finite numbers they hold. Those that could have been made
are the valid ones, and a law always answers exactly if it is valid, wherever it comes from. -/
theorem read_calibrations_valid_iff :
    (∀ r : ImpactRange α, IsFinite r →
      (∀ d : Document α, (encode r).RestatedBy d → decode d = some r) ∧
        ((∃ capture plateau, ImpactRange.make capture plateau = .ok r) ↔ r.Valid)) ∧
    (∀ r : Restitution α, (r.Answers ↔ r.Valid) ∧ (IsFinite r →
      (∀ d : Document α, (encode r).RestatedBy d → decode d = some r) ∧
        (r.Calibrated ↔ r.Valid))) ∧
    ∀ f : DryFriction α, (f.Answers ↔ f.Valid) ∧ (IsFinite f →
      (∀ d : Document α, (encode f).RestatedBy d → decode d = some f) ∧
        (f.Calibrated ↔ f.Valid)) := by
  refine ⟨fun r hr => ⟨fun _ => Lawful.decode_restated ⟨hr, trivial⟩, ?_, fun h => ?_⟩,
    fun r => ⟨r.answers_iff, fun hr => ⟨fun _ => Lawful.decode_restated ⟨hr, trivial⟩, ?_⟩⟩,
    fun f => ⟨f.answers_iff, fun hf => ⟨fun _ => Lawful.decode_restated ⟨hf, trivial⟩, ?_⟩⟩⟩
  · rintro ⟨capture, plateau, h⟩
    exact ImpactRange.valid_of_make h
  · exact ⟨r.capture, r.plateau, h.make_eq_ok hr⟩
  · exact ⟨fun h => h.valid, fun h => h.calibrated hr⟩
  · exact ⟨fun h => h.valid, fun h => h.calibrated hf⟩

/-- Of two laws of restitution the first one is not valid, of two laws of friction the second
one. All are read. -/
theorem read_calibrations_valid_iff_of_laws :
    let rebounding : Restitution Float := ⟨2, none⟩
    let capturing : Restitution Float := ⟨0.5, some ⟨0, 2⟩⟩
    let rough : DryFriction Float := ⟨1, 0.5, 0, some 0⟩
    let slippery : DryFriction Float := ⟨0.5, 1, 0, none⟩
    (decode (.list [.real 2, .null] : Document Float) = some rebounding ∧
      ¬rebounding.Calibrated ∧ ¬rebounding.Answers) ∧
    (decode (encode capturing : Document Float) = some capturing ∧
      capturing.Calibrated ∧ capturing.Answers) ∧
    (decode (encode rough : Document Float) = some rough ∧ rough.Calibrated ∧ rough.Answers) ∧
    decode (encode slippery : Document Float) = some slippery ∧
      ¬slippery.Calibrated ∧ ¬slippery.Answers := by
  intro rebounding capturing rough slippery
  obtain ⟨-, hrestitution, hfriction⟩ := read_calibrations_valid_iff (α := Float)
  have hwritten : encode (⟨2, none⟩ : Restitution Float) =
      (.record [("min_cor", .real 2), ("speeds", .null)] : Document Float) := rfl
  have hlisted : (encode rebounding).RestatedBy (.list [.real 2, .null] : Document Float) := by
    rw [hwritten]
    exact .listed (.cons (.same _) (.cons (.same _) .nil))
  have hrebounding : ¬rebounding.Valid := fun h => absurd h.le_one (by decide)
  have hcapturing : capturing.Valid := by
    refine ⟨by decide, by decide, fun _ h => ?_⟩
    cases h
    exact ⟨by decide, by decide⟩
  have hrough : rough.Valid := by
    refine ⟨by decide, by decide, by decide, by decide, fun _ h => ?_⟩
    cases h
    decide
  have hslippery : ¬slippery.Valid := fun h => absurd h.order (by decide)
  refine ⟨?_, ?_, ?_, ?_⟩
  · obtain ⟨hanswers, hfinite⟩ := hrestitution rebounding
    obtain ⟨hread, hmade⟩ := hfinite ⟨by decide, nofun⟩
    exact ⟨hread _ hlisted, mt hmade.1 hrebounding, mt hanswers.1 hrebounding⟩
  · obtain ⟨hanswers, hfinite⟩ := hrestitution capturing
    obtain ⟨hread, hmade⟩ := hfinite ⟨by decide, fun _ h => by cases h; exact ⟨by decide, by decide⟩⟩
    exact ⟨hread _ (.same _), hmade.2 hcapturing, hanswers.2 hcapturing⟩
  · obtain ⟨hanswers, hfinite⟩ := hfriction rough
    obtain ⟨hread, hmade⟩ := hfinite ⟨by decide, by decide, by decide, fun _ h => by cases h; decide⟩
    exact ⟨hread _ (.same _), hmade.2 hrough, hanswers.2 hrough⟩
  · obtain ⟨hanswers, hfinite⟩ := hfriction slippery
    obtain ⟨hread, hmade⟩ := hfinite ⟨by decide, by decide, by decide, nofun⟩
    exact ⟨hread _ (.same _), mt hmade.1 hslippery, mt hanswers.1 hslippery⟩

/-- A record is read that sends every impact back at twice its speed. It could not have been
made, and the law refuses it whatever the speeds. -/
theorem least_unchecked :
    let r : Restitution Float := ⟨2, none⟩
    decode (.record [("min_cor", .real 2), ("speeds", .null)] : Document Float) = some r ∧
      ¬r.Valid ∧ ¬r.Calibrated ∧
      ∀ default impact, r.coefficient default impact = .error (.leastRestitution 2) := by
  intro r
  have hleast : ¬((0 : Float) ≤ 2 ∧ (2 : Float) ≤ 1) := by decide
  have hvalid : ¬r.Valid := fun h => hleast ⟨h.nonneg, h.le_one⟩
  exact ⟨rfl, hvalid, fun h => hvalid h.valid, fun _ _ => if_pos hleast⟩

end OneSided
