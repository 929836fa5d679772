import Mathlib
import OneSided.Proofs.Calibration.Plastic

/-! How the coefficient of restitution depends on the speeds and on the least coefficient, in
exact arithmetic. Above the capture speed the line and the plateau are one formula: what the
impact lacks to the plateau speed, as a part of that speed, says how far the coefficient is
above the least one. Main statement: the coefficient grows with the least coefficient and with
the plateau speed, and falls with the capture speed and, once not captured, with the impact. -/

namespace OneSided

open Filter

/-! ### What an impact lacks to the plateau speed -/

/-- What an impact lacks to the plateau speed, as a part of that speed. -/
noncomputable def shortfall (plateau impact : ℝ) : ℝ := (plateau - min impact plateau) / plateau

section Shortfall

variable {plateau impact : ℝ}

theorem shortfall_of_le (h : plateau ≤ impact) : shortfall plateau impact = 0 := by
  rw [shortfall, min_eq_right h, sub_self, zero_div]

theorem shortfall_of_pos (hp : 0 < plateau) (impact : ℝ) :
    shortfall plateau impact = max (1 - impact / plateau) 0 := by
  rw [shortfall, sub_div, div_self hp.ne', ← min_div_div_right hp.le, div_self hp.ne',
    ← max_sub_sub_left, sub_self]

theorem shortfall_of_pos_of_le (hp : 0 < plateau) (h : impact ≤ plateau) :
    shortfall plateau impact = 1 - impact / plateau := by
  rw [shortfall_of_pos hp, max_eq_left (sub_nonneg.2 ((div_le_one hp).2 h))]

theorem shortfall_nonneg (hp : 0 ≤ plateau) (impact : ℝ) : 0 ≤ shortfall plateau impact :=
  div_nonneg (sub_nonneg.2 (min_le_right impact plateau)) hp

theorem shortfall_le_one (hp : 0 ≤ plateau) (himpact : 0 ≤ impact) :
    shortfall plateau impact ≤ 1 :=
  div_le_one_of_le₀ (sub_le_self plateau (le_min himpact hp)) hp

theorem shortfall_antitone (hp : 0 ≤ plateau) : Antitone (shortfall plateau) := by
  intro v v' h
  have hmin : min v plateau ≤ min v' plateau := min_le_min_right plateau h
  exact div_le_div_of_nonneg_right (sub_le_sub_left hmin plateau) hp

theorem shortfall_monotoneOn (himpact : 0 ≤ impact) :
    MonotoneOn (fun plateau => shortfall plateau impact) (Set.Ici 0) := by
  intro p hp p' hp' h
  rcases (Set.mem_Ici.1 hp).eq_or_lt with rfl | hpos
  · -- every impact reaches a plateau speed of zero
    exact (shortfall_of_le himpact).trans_le (shortfall_nonneg hp' impact)
  · have hfraction : impact / p' ≤ impact / p := div_le_div_of_nonneg_left himpact hpos h
    simp only [shortfall_of_pos hpos, shortfall_of_pos (hpos.trans_le h)]
    exact max_le_max_right 0 (sub_le_sub_left hfraction 1)

theorem shortfall_continuous (plateau : ℝ) : Continuous (shortfall plateau) :=
  (continuous_const.sub (continuous_id.min continuous_const)).div_const plateau

end Shortfall

/-! ### The coefficient -/

/-- The coefficient of restitution, with one formula for all impacts that are not captured. -/
noncomputable def ImpactRange.coefficient (range : ImpactRange ℝ) (least impact : ℝ) : ℝ :=
  if impact ≤ range.capture then 0 else least + (1 - least) * shortfall range.plateau impact

namespace ImpactRange

variable {least : ℝ} {range : ImpactRange ℝ} {impact : ℝ}

theorem coefficient_of_captured (h : impact ≤ range.capture) :
    range.coefficient least impact = 0 :=
  if_pos h

theorem coefficient_of_lt (h : range.capture < impact) :
    range.coefficient least impact = least + (1 - least) * shortfall range.plateau impact :=
  if_neg h.not_ge

theorem coefficient_of_plateau (h : range.capture < impact) (hplateau : range.plateau ≤ impact) :
    range.coefficient least impact = least := by
  rw [coefficient_of_lt h, shortfall_of_le hplateau, mul_zero, add_zero]

/-! ### No jump above the capture speed -/

theorem continuous_line (least plateau : ℝ) :
    Continuous fun v => least + (1 - least) * shortfall plateau v :=
  continuous_const.add (continuous_const.mul (shortfall_continuous plateau))

theorem coefficient_continuousOn (least : ℝ) (range : ImpactRange ℝ) :
    ContinuousOn (range.coefficient least) (Set.Ioi range.capture) :=
  (continuous_line least range.plateau).continuousOn.congr fun _ hv => coefficient_of_lt hv

/-- This holds also where the plateau begins at the capture speed, so that an impact at the
plateau speed is captured. -/
theorem coefficient_tendsto_least (least : ℝ) (range : ImpactRange ℝ) :
    Tendsto (range.coefficient least) (nhdsWithin range.plateau (Set.Ioi range.capture))
      (nhds least) := by
  have hline := (continuous_line least range.plateau).continuousWithinAt
    (s := Set.Ioi range.capture) (x := range.plateau)
  have hend : least + (1 - least) * shortfall range.plateau range.plateau = least := by
    rw [shortfall_of_le le_rfl, mul_zero, add_zero]
  rw [ContinuousWithinAt, hend] at hline
  refine hline.congr' ?_
  filter_upwards [self_mem_nhdsWithin] with v hv
  exact (coefficient_of_lt hv).symm

/-! ### The law and its bounds -/

variable [Grain]

theorem Valid.plateau_nonneg (hr : range.Valid) : 0 ≤ range.plateau :=
  le_trans hr.capture hr.order

theorem restitution_eq_coefficient (hleast : least ∈ Set.Icc 0 1) (hr : range.Valid)
    (himpact : 0 ≤ impact) :
    restitution least range.capture range.plateau impact =
      .ok (range.coefficient least impact) := by
  have hvalid : (⟨least, some range⟩ : Restitution ℝ).Valid :=
    ⟨hleast.1, hleast.2, fun _ h => Option.some.inj h ▸ hr⟩
  have h : Restitution.coefficient ⟨least, some range⟩ range impact = _ :=
    hvalid.coefficient_eq nofun himpact
  refine h.trans (congrArg Except.ok ?_)
  rcases le_or_gt impact range.capture with hcapture | hcapture
  · exact (if_pos hcapture).trans (coefficient_of_captured hcapture).symm
  refine (if_neg hcapture.not_ge).trans ?_
  rcases le_or_gt range.plateau impact with hplateau | hplateau
  · exact (if_pos hplateau).trans (coefficient_of_plateau hcapture hplateau).symm
  · have hpos : 0 < range.plateau := himpact.trans_lt hplateau
    refine (if_neg hplateau.not_ge).trans ?_
    rw [coefficient_of_lt hcapture, shortfall_of_pos_of_le hpos hplateau.le]
    simp only [Option.getD_some]
    ring

theorem least_le_coefficient (hleast : least ∈ Set.Icc 0 1) (hr : range.Valid)
    (h : range.capture < impact) : least ≤ range.coefficient least impact := by
  have hrise : 0 ≤ (1 - least) * shortfall range.plateau impact :=
    mul_nonneg (sub_nonneg.2 hleast.2) (shortfall_nonneg hr.plateau_nonneg impact)
  rw [coefficient_of_lt h]
  exact le_add_of_nonneg_right hrise

theorem coefficient_le_one (hleast : least ∈ Set.Icc 0 1) (hr : range.Valid)
    (h : range.capture < impact) : range.coefficient least impact ≤ 1 := by
  have himpact : 0 ≤ impact := hr.capture.trans h.le
  have hrise : (1 - least) * shortfall range.plateau impact ≤ 1 - least :=
    mul_le_of_le_one_right (sub_nonneg.2 hleast.2) (shortfall_le_one hr.plateau_nonneg himpact)
  rw [coefficient_of_lt h]
  linarith

theorem coefficient_nonneg (hleast : least ∈ Set.Icc 0 1) (hr : range.Valid) (impact : ℝ) :
    0 ≤ range.coefficient least impact := by
  rcases le_or_gt impact range.capture with hcapture | hcapture
  · rw [coefficient_of_captured hcapture]
  · exact hleast.1.trans (least_le_coefficient hleast hr hcapture)

/-! ### Monotonicity in each argument -/

theorem coefficient_antitoneOn_impact (hleast : least ∈ Set.Icc 0 1) (hr : range.Valid) :
    AntitoneOn (range.coefficient least) (Set.Ioi range.capture) := by
  intro v hv v' hv' h
  have hshort := shortfall_antitone hr.plateau_nonneg h
  rw [coefficient_of_lt hv, coefficient_of_lt hv']
  exact add_le_add_right (mul_le_mul_of_nonneg_left hshort (sub_nonneg.2 hleast.2)) least

theorem coefficient_monotoneOn_least (hr : range.Valid) (impact : ℝ) :
    MonotoneOn (fun least => range.coefficient least impact) (Set.Icc 0 1) := by
  intro l hl l' hl' h
  rcases le_or_gt impact range.capture with hcapture | hcapture
  · simp only [coefficient_of_captured hcapture, le_refl]
  · have hshort : shortfall range.plateau impact ≤ 1 :=
      shortfall_le_one hr.plateau_nonneg (hr.capture.trans hcapture.le)
    have hgrow : 0 ≤ (l' - l) * (1 - shortfall range.plateau impact) :=
      mul_nonneg (sub_nonneg.2 h) (sub_nonneg.2 hshort)
    simp only [coefficient_of_lt hcapture]
    linarith

omit [Grain] in
theorem coefficient_monotoneOn_plateau (hleast : least ∈ Set.Icc 0 1) {capture : ℝ}
    (hcapture : 0 ≤ capture) (impact : ℝ) :
    MonotoneOn (fun plateau => ImpactRange.coefficient ⟨capture, plateau⟩ least impact)
      (Set.Ici capture) := by
  intro p hp p' hp' h
  rcases le_or_gt impact capture with hcaptured | hfree
  · simp only [coefficient, if_pos hcaptured, le_refl]
  · have hshort := shortfall_monotoneOn (hcapture.trans hfree.le) (hcapture.trans hp)
      (hcapture.trans hp') h
    simp only [coefficient, if_neg hfree.not_ge]
    exact add_le_add_right (mul_le_mul_of_nonneg_left hshort (sub_nonneg.2 hleast.2)) least

theorem coefficient_antitoneOn_capture (hleast : least ∈ Set.Icc 0 1) (plateau impact : ℝ) :
    AntitoneOn (fun capture => ImpactRange.coefficient ⟨capture, plateau⟩ least impact)
      (Set.Icc 0 plateau) := by
  intro c hc c' hc' h
  rcases le_or_gt impact c' with hcaptured | hfree
  · have hr : (⟨c, plateau⟩ : ImpactRange ℝ).Valid := ⟨hc.1, hc.2⟩
    have hzero : ImpactRange.coefficient ⟨c', plateau⟩ least impact = 0 :=
      coefficient_of_captured hcaptured
    exact hzero.trans_le (coefficient_nonneg hleast hr impact)
  · simp only [coefficient, if_neg hfree.not_ge, if_neg (h.trans_lt hfree).not_ge, le_refl]

end ImpactRange

/-- By exact arithmetic the law of restitution has an answer to all valid arguments. A slow
impact is captured; any other one rebounds by a coefficient from the least one to one, which
falls with the impact, without a jump, and comes to the least one at the plateau speed. For
one impact the coefficient grows with the least coefficient and with the plateau speed, and
falls with the capture speed. -/
theorem restitution_monotone [Grain] :
    (∀ least ∈ Set.Icc (0 : ℝ) 1, ∀ range : ImpactRange ℝ, range.Valid →
      (∀ impact, 0 ≤ impact →
        restitution least range.capture range.plateau impact =
          .ok (range.coefficient least impact)) ∧
      (∀ impact, impact ≤ range.capture → range.coefficient least impact = 0) ∧
      (∀ impact, range.capture < impact → range.coefficient least impact ∈ Set.Icc least 1) ∧
      AntitoneOn (range.coefficient least) (Set.Ioi range.capture) ∧
      (∀ impact, range.capture < impact → range.plateau ≤ impact →
        range.coefficient least impact = least) ∧
      ContinuousOn (range.coefficient least) (Set.Ioi range.capture) ∧
      Tendsto (range.coefficient least) (nhdsWithin range.plateau (Set.Ioi range.capture))
        (nhds least)) ∧
    (∀ range : ImpactRange ℝ, range.Valid → ∀ impact,
      MonotoneOn (fun least => range.coefficient least impact) (Set.Icc 0 1)) ∧
    (∀ least ∈ Set.Icc (0 : ℝ) 1, ∀ capture, 0 ≤ capture → ∀ impact,
      MonotoneOn (fun plateau => ImpactRange.coefficient ⟨capture, plateau⟩ least impact)
        (Set.Ici capture)) ∧
    ∀ least ∈ Set.Icc (0 : ℝ) 1, ∀ plateau impact,
      AntitoneOn (fun capture => ImpactRange.coefficient ⟨capture, plateau⟩ least impact)
        (Set.Icc 0 plateau) := by
  refine ⟨fun least hleast range hr => ?_, fun range => ImpactRange.coefficient_monotoneOn_least,
    fun least hleast capture => ImpactRange.coefficient_monotoneOn_plateau hleast,
    fun least => ImpactRange.coefficient_antitoneOn_capture⟩
  have hbounds (impact : ℝ) (h : range.capture < impact) :
      range.coefficient least impact ∈ Set.Icc least 1 :=
    ⟨ImpactRange.least_le_coefficient hleast hr h, ImpactRange.coefficient_le_one hleast hr h⟩
  exact ⟨fun impact => ImpactRange.restitution_eq_coefficient hleast hr,
    fun impact => ImpactRange.coefficient_of_captured, hbounds,
    ImpactRange.coefficient_antitoneOn_impact hleast hr,
    fun impact => ImpactRange.coefficient_of_plateau,
    ImpactRange.coefficient_continuousOn least range,
    ImpactRange.coefficient_tendsto_least least range⟩

/-- A capture speed of one and a plateau speed of two or three: an impact at one is captured,
one at three halves is on the line, and one at five halves is on the plateau of the first
range and on the line of the second. A plateau that begins at zero leaves no line. -/
theorem restitution_monotone_of_ranges :
    let _ : Grain := ⟨2⁻¹ ^ 52⟩
    let half : ℝ := 1 / 2
    let near : ImpactRange ℝ := ⟨1, 2⟩
    let far : ImpactRange ℝ := ⟨1, 3⟩
    let flat : ImpactRange ℝ := ⟨0, 0⟩
    let late : ImpactRange ℝ := ⟨3 / 2, 2⟩
    half ∈ Set.Icc 0 1 ∧ near.Valid ∧ far.Valid ∧ flat.Valid ∧
      restitution half near.capture near.plateau 1 = .ok 0 ∧
      restitution half near.capture near.plateau (5 / 2) = .ok half ∧
      restitution half flat.capture flat.plateau 1 = .ok half ∧
      restitution half near.capture near.plateau (3 / 2) = .ok (near.coefficient half (3 / 2)) ∧
      near.coefficient half (3 / 2) ∈ Set.Icc half 1 ∧
      near.coefficient half (5 / 2) ≤ near.coefficient half (3 / 2) ∧
      near.coefficient half (5 / 2) ≤ far.coefficient half (5 / 2) ∧
      near.coefficient 0 (3 / 2) ≤ near.coefficient half (3 / 2) ∧
      late.coefficient half (3 / 2) ≤ near.coefficient half (3 / 2) := by
  intro _ half near far flat late
  have hhalf : half ∈ Set.Icc 0 1 := by norm_num [half]
  have hnear : near.Valid := ⟨zero_le_one, one_le_two⟩
  have hfar : far.Valid := ⟨zero_le_one, by norm_num [far]⟩
  have hflat : flat.Valid := ⟨le_refl 0, le_refl 0⟩
  obtain ⟨hlaw, hleast, hplateau, hcapture⟩ := restitution_monotone
  obtain ⟨hok, hslow, hbounds, hfalls, hfast, -⟩ := hlaw half hhalf near hnear
  obtain ⟨hokFlat, -, -, -, hfastFlat, -⟩ := hlaw half hhalf flat hflat
  have hmiddle : near.capture < (3 / 2 : ℝ) := by norm_num [near]
  have hpast : near.capture < (5 / 2 : ℝ) := by norm_num [near]
  refine ⟨hhalf, hnear, hfar, hflat, ?_, ?_, ?_, hok _ (by norm_num), hbounds _ hmiddle, ?_, ?_,
    ?_, ?_⟩
  · rw [hok 1 zero_le_one, hslow 1 (le_refl 1)]
  · rw [hok _ (by norm_num), hfast _ hpast (by norm_num [near])]
  · rw [hokFlat 1 zero_le_one, hfastFlat 1 zero_lt_one zero_le_one]
  · exact hfalls hmiddle hpast (by norm_num)
  · exact hplateau half hhalf 1 zero_le_one _ (by norm_num) (by norm_num) (by norm_num)
  · exact hleast near hnear _ (by norm_num) hhalf hhalf.1
  · exact hcapture half hhalf 2 _ (by norm_num) (by norm_num) (by norm_num)

end OneSided
