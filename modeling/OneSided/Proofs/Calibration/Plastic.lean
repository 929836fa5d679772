import Mathlib
import OneSided.Proofs.Calibration.Validity

/-! The plastic calibration. Its least coefficient is zero, and this is what it answers to
slow and to fast impacts. In between the law does not look at the least coefficient alone:
it falls from one, whatever it falls to. Main statement: a plastic contact rebounds from
every impact whose speed lies between the two speeds of the range, and from no other. -/

namespace OneSided

variable {α : Type} [Scalar α]

/-! ### What the law answers -/

section Law

variable {r : Restitution α} {default : ImpactRange α} {impact : α}

/-- Among valid speeds the law has an answer to every impact. -/
theorem Restitution.Valid.coefficient_eq (hr : r.Valid) (hd : r.range = none → default.Valid)
    (himpact : 0 ≤ impact) :
    r.coefficient default impact = .ok (
      if impact ≤ (r.range.getD default).capture then 0
      else if (r.range.getD default).plateau ≤ impact then r.least
      else 1 - (1 - r.least) / (r.range.getD default).plateau * impact) := by
  have hrange := hr.getD_valid hd
  rw [coefficient, restitution, if_neg (not_not_intro ⟨hr.nonneg, hr.le_one⟩),
    if_neg (not_not_intro ⟨hrange.capture, hrange.order⟩), if_neg (not_not_intro himpact)]
  split_ifs <;> rfl

variable [Scalar.Ordered α]

theorem Restitution.plastic_valid : (plastic : Restitution α).Valid := Calibrated.plastic.valid

theorem Restitution.plastic_of_outside (hd : default.Valid) (himpact : 0 ≤ impact)
    (h : impact ≤ default.capture ∨ default.plateau ≤ impact) :
    plastic.coefficient default impact = .ok 0 := by
  rw [plastic_valid.coefficient_eq (fun _ => hd) himpact]
  by_cases hcapture : impact ≤ default.capture
  · exact congrArg Except.ok (if_pos hcapture)
  · have hplateau := h.resolve_left hcapture
    exact congrArg Except.ok ((if_neg hcapture).trans (if_pos hplateau))

theorem Restitution.plastic_of_between (hd : default.Valid) (himpact : 0 ≤ impact)
    (h : ¬(impact ≤ default.capture ∨ default.plateau ≤ impact)) :
    plastic.coefficient default impact = .ok (1 - (1 - 0) / default.plateau * impact) := by
  rw [plastic_valid.coefficient_eq (fun _ => hd) himpact]
  obtain ⟨hcapture, hplateau⟩ := not_or.1 h
  exact congrArg Except.ok ((if_neg hcapture).trans (if_neg hplateau))

end Law

/-! ### In exact arithmetic -/

section Exact

variable [Grain] {range : ImpactRange ℝ} {impact : ℝ}

/-- The line falls from one and reaches zero at the plateau speed only. -/
theorem plastic_line_bounds (hr : range.Valid) (hcapture : range.capture < impact)
    (hplateau : impact < range.plateau) :
    0 < 1 - (1 - 0) / range.plateau * impact ∧ 1 - (1 - 0) / range.plateau * impact < 1 := by
  have himpact : 0 < impact := lt_of_le_of_lt hr.capture hcapture
  have hpos : 0 < range.plateau := himpact.trans hplateau
  have hline : (1 - 0) / range.plateau * impact = impact / range.plateau := by
    rw [sub_zero, div_mul_eq_mul_div, one_mul]
  rw [hline]
  have hlt : impact / range.plateau < 1 := (div_lt_one hpos).2 hplateau
  have hgt : 0 < impact / range.plateau := div_pos himpact hpos
  exact ⟨by linarith, by linarith⟩

end Exact

/-- How a contact rebounds that is calibrated as plastic: slow and fast impacts are captured,
and all others fall on the line from one to zero, so that they are captured only if that comes
to zero. It never does so by exact arithmetic. -/
theorem plastic_captures_iff [Scalar.Ordered α] (c : Contact α) (s : State α)
    (range : ImpactRange α) (impact : α) (hc : c.rebound = .plastic) (hr : range.Valid)
    (himpact : 0 ≤ impact) :
    (¬(impact ≤ range.capture ∨ range.plateau ≤ impact) →
      Unilateral.restitution c s range impact = .ok (1 - (1 - 0) / range.plateau * impact)) ∧
    (Unilateral.restitution c s range impact = .ok 0 ↔
      (impact ≤ range.capture ∨ range.plateau ≤ impact) ∨
        1 - (1 - 0) / range.plateau * impact = 0) ∧
    ∀ [Grain] (bounds : ImpactRange ℝ) (speed : ℝ), bounds.Valid → bounds.capture < speed →
      speed < bounds.plateau →
        0 < 1 - (1 - 0) / bounds.plateau * speed ∧ 1 - (1 - 0) / bounds.plateau * speed < 1 := by
  rw [c.restitution_eq, hc]
  refine ⟨Restitution.plastic_of_between hr himpact, ?_, fun _ _ => plastic_line_bounds⟩
  by_cases h : impact ≤ range.capture ∨ range.plateau ≤ impact
  · exact iff_of_true (Restitution.plastic_of_outside hr himpact h) (.inl h)
  · rw [Restitution.plastic_of_between hr himpact h, Except.ok.injEq]
    exact ⟨.inr, fun hzero => hzero.resolve_left h⟩

/-- A stop is plastic and has no speeds of its own. Under a range from zero to two, an impact
at twice the plateau speed is captured, and one at half of it rebounds at a half. -/
theorem plastic_captures_iff_of_stop :
    let _ : Grain := ⟨2⁻¹ ^ 52⟩
    let range : ImpactRange ℝ := ⟨0, 2⟩
    let stop : Contact ℝ := .stop ⟨.lower, ⟨⟨1⟩, 0, 1⟩, 0, 3, .plastic, ⟨⟨0⟩, 0, 3⟩, none⟩
    let s : State ℝ := Topology.empty.allocate
    stop.rebound = .plastic ∧ range.Valid ∧
      Unilateral.restitution stop s range 4 = .ok 0 ∧
      Unilateral.restitution stop s range 1 = .ok (1 / 2) ∧
      Unilateral.restitution stop s range 1 ≠ .ok 0 := by
  intro _ range stop s
  have hr : range.Valid := ⟨le_refl 0, zero_le_two⟩
  obtain ⟨-, hfast, -⟩ := plastic_captures_iff stop s range 4 rfl hr zero_le_four
  obtain ⟨hline, hzero, hbounds⟩ := plastic_captures_iff stop s range 1 rfl hr zero_le_one
  have hplateau : range.plateau ≤ (4 : ℝ) := by norm_num [range]
  have hbetween : range.capture < (1 : ℝ) ∧ 1 < range.plateau := by norm_num [range]
  have hmiddle : ¬((1 : ℝ) ≤ range.capture ∨ range.plateau ≤ 1) :=
    not_or.2 ⟨hbetween.1.not_ge, hbetween.2.not_ge⟩
  have hpos := (hbounds range 1 hr hbetween.1 hbetween.2).1
  refine ⟨rfl, hr, hfast.2 (.inl (.inr hplateau)), ?_, ?_⟩
  · rw [hline hmiddle]
    norm_num [range]
  · exact mt hzero.1 (not_or.2 ⟨hmiddle, hpos.ne'⟩)

/-- Not every impact on a plastic contact is captured. -/
theorem plastic_rebounds :
    let range : ImpactRange Float := ⟨0, 2⟩
    let stop : Contact Float := .stop ⟨.lower, ⟨⟨1⟩, 0, 1⟩, 0, 3, .plastic, ⟨⟨0⟩, 0, 3⟩, none⟩
    let s : State Float := Topology.empty.allocate
    range.Valid ∧ (0 : Float) ≤ 1 ∧
      Restitution.plastic.coefficient range 1 = .ok (0.5 : Float) ∧
      Unilateral.restitution stop s range 1 = .ok (0.5 : Float) ∧ (0.5 : Float) ≠ 0 := by
  intro range stop s
  have hr : range.Valid := ⟨by decide, by decide⟩
  have hbetween : ¬((1 : Float) ≤ range.capture ∨ range.plateau ≤ 1) := by decide
  have hline : (1 - (1 - 0) / range.plateau * 1 : Float) = 0.5 := by decide +kernel
  have hhalf : Restitution.plastic.coefficient range 1 = .ok (0.5 : Float) :=
    (Restitution.plastic_of_between hr (by decide) hbetween).trans (congrArg Except.ok hline)
  exact ⟨hr, by decide, hhalf, (stop.restitution_eq s range 1).trans hhalf, by decide⟩

end OneSided
