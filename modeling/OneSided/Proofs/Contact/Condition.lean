import OneSided.Proofs.Space.Exact
import OneSided.Proofs.State.Answer
import OneSided.Proofs.State.Reading
import OneSided.Proofs.State.Switching

/-! The conditions of a contact in exact arithmetic. They are five clauses about what the
contact tells of itself: its error, the two rates of the error, and its multiplier. Main
statement: the search for a violated condition names the first clause that fails, and
without tolerance a contact satisfies its conditions exactly if it is open, or closed and
opening, or closed at rest with a force that only pushes and only while it stays closed. -/

namespace OneSided

/-- What the conditions of a contact are about: its motion along its direction, and the
multiplier of its force. -/
structure Kinetics (α : Type) where
  position : α
  velocity : α
  acceleration : α
  multiplier : α

variable {κ : Type} [Grain] {σ : Sense} {tol : ℝ} {r : Kinetics ℝ}

/-! ### Signs -/

namespace Sense

theorem apply_eq_mul (σ : Sense) (x : ℝ) : σ.apply x = σ.toScalar * x := by
  cases σ <;> simp [apply, toScalar, toInt, Scalar.ofInt]

theorem abs_le_iff (σ : Sense) {x : ℝ} :
    |x| ≤ tol ↔ -tol ≤ σ.toScalar * x ∧ σ.toScalar * x ≤ tol := by
  rw [← abs_le, ← apply_eq_mul]
  cases σ
  · rfl
  · rw [apply, abs_neg]

/-- Neither of the two comparisons with the tolerance is true of a value within it. -/
theorem not_lt_of_abs_le (σ : Sense) {x : ℝ} (h : |x| ≤ tol) :
    ¬σ.apply x < -tol ∧ ¬tol < σ.apply x := by
  rw [σ.abs_le_iff, ← apply_eq_mul] at h
  exact ⟨not_lt.2 h.1, not_lt.2 h.2⟩

end Sense

/-! ### Clauses -/

namespace Kinetics

/-- The contact is neither open nor penetrated by more than the tolerance. -/
def Closed (r : Kinetics ℝ) (tol : ℝ) : Prop := |r.position| ≤ tol

/-- The contact is closed and neither opens nor approaches by more than the tolerance. -/
def Resting (r : Kinetics ℝ) (tol : ℝ) : Prop := r.Closed tol ∧ |r.velocity| ≤ tol

/-- No condition is violated: the contact is open, or closed and opening, or it rests and
its acceleration, its force and their product are as they should be. -/
def Admissible (r : Kinetics ℝ) (σ : Sense) (tol : ℝ) : Prop :=
  tol < σ.toScalar * r.position ∨ |r.position| ≤ tol ∧
    (tol < σ.toScalar * r.velocity ∨ |r.velocity| ≤ tol ∧
      -tol ≤ σ.toScalar * r.acceleration ∧ -tol ≤ -σ.toScalar * r.multiplier ∧
        |r.acceleration * r.multiplier| ≤ tol)

/-- At rest the last three clauses hold. -/
theorem Admissible.of_resting (h : r.Admissible σ tol) (hrest : r.Resting tol) :
    -tol ≤ σ.toScalar * r.acceleration ∧ -tol ≤ -σ.toScalar * r.multiplier ∧
      |r.acceleration * r.multiplier| ≤ tol := by
  rcases h with hopen | ⟨-, hopening | ⟨-, hclauses⟩⟩
  · exact absurd (σ.abs_le_iff.1 hrest.1).2 (not_le.2 hopen)
  · exact absurd (σ.abs_le_iff.1 hrest.2).2 (not_le.2 hopening)
  · exact hclauses

/-- The conditions as they are documented, without tolerance. -/
structure Valid (r : Kinetics ℝ) (σ : Sense) : Prop where
  position : 0 ≤ σ.toScalar * r.position
  velocity : r.position = 0 → 0 ≤ σ.toScalar * r.velocity
  rest : r.position = 0 → r.velocity = 0 →
    0 ≤ σ.toScalar * r.acceleration ∧ 0 ≤ -σ.toScalar * r.multiplier ∧
      r.acceleration * r.multiplier = 0

theorem admissible_zero_iff : r.Admissible σ 0 ↔ r.Valid σ := by
  have hσ : σ.toScalar * (0 : ℝ) = 0 := mul_zero _
  have hne {x : ℝ} (h : 0 < σ.toScalar * x) : x ≠ 0 := by
    rintro rfl
    exact absurd h (by simp)
  have hpos {x : ℝ} (h : 0 ≤ σ.toScalar * x) : 0 < σ.toScalar * x ∨ x = 0 := by
    rcases lt_or_eq_of_le h with h | h
    · exact .inl h
    · rw [← abs_nonpos_iff, σ.abs_le_iff, ← h, neg_zero]
      exact .inr ⟨le_rfl, le_rfl⟩
  simp only [Admissible, abs_nonpos_iff, neg_zero]
  constructor
  · rintro (hp | ⟨hp, hv | ⟨hv, hrest⟩⟩)
    · exact ⟨hp.le, fun h => absurd h (hne hp), fun h => absurd h (hne hp)⟩
    · exact ⟨by rw [hp, hσ], fun _ => hv.le, fun _ h => absurd h (hne hv)⟩
    · exact ⟨by rw [hp, hσ], fun _ => by rw [hv, hσ], fun _ _ => hrest⟩
  · rintro ⟨hp, hv, hrest⟩
    rcases hpos hp with hp | hp
    · exact .inl hp
    · rcases hpos (hv hp) with hv | hv
      · exact .inr ⟨hp, .inl hv⟩
      · exact .inr ⟨hp, .inr ⟨hv, hrest hp hv⟩⟩

end Kinetics

namespace Violation

/-- The order in which conditions are looked at. -/
def inOrder : List Violation := [penetration, approach, acceleration, attraction, complementarity]

/-- A condition is violated by more than the tolerance. -/
def Fails (r : Kinetics ℝ) (σ : Sense) (tol : ℝ) : Violation → Prop
  | penetration => σ.toScalar * r.position < -tol
  | approach => r.Closed tol ∧ σ.toScalar * r.velocity < -tol
  | acceleration => r.Resting tol ∧ σ.toScalar * r.acceleration < -tol
  | attraction => r.Resting tol ∧ -σ.toScalar * r.multiplier < -tol
  | complementarity => r.Resting tol ∧ tol < |r.acceleration * r.multiplier|

noncomputable instance : DecidablePred (Fails r σ tol) := Classical.decPred _

/-- The first condition that is violated. -/
noncomputable def first? (r : Kinetics ℝ) (σ : Sense) (tol : ℝ) : Option Violation :=
  inOrder.find? fun w => decide (w.Fails r σ tol)

theorem fails_of_first? {w : Violation} (h : first? r σ tol = some w) : w.Fails r σ tol :=
  of_decide_eq_true (List.find?_some (p := fun w : Violation => decide (w.Fails r σ tol)) h)

theorem first?_eq_some_iff {w : Violation} :
    first? r σ tol = some w ↔
      w.Fails r σ tol ∧ ∀ w' ∈ inOrder.takeWhile (· ≠ w), ¬w'.Fails r σ tol := by
  cases w <;> simp [first?, inOrder, List.takeWhile] <;> tauto

theorem first?_eq_none_iff : first? r σ tol = none ↔ ∀ w : Violation, ¬w.Fails r σ tol := by
  simp only [first?, List.find?_eq_none, decide_eq_true_eq]
  exact ⟨fun h w => h w (by cases w <;> decide), fun h w _ => h w⟩

theorem admissible_of_forall (h : ∀ w : Violation, ¬w.Fails r σ tol) : r.Admissible σ tol := by
  have hp := not_lt.1 (h penetration)
  rcases lt_or_ge tol (σ.toScalar * r.position) with hopen | hp'
  · exact .inl hopen
  have hclosed : r.Closed tol := σ.abs_le_iff.2 ⟨hp, hp'⟩
  have hv := not_lt.1 fun hv => h approach ⟨hclosed, hv⟩
  rcases lt_or_ge tol (σ.toScalar * r.velocity) with hopening | hv'
  · exact .inr ⟨hclosed, .inl hopening⟩
  have hrest : r.Resting tol := ⟨hclosed, σ.abs_le_iff.2 ⟨hv, hv'⟩⟩
  exact .inr ⟨hclosed, .inr ⟨hrest.2, not_lt.1 fun ha => h acceleration ⟨hrest, ha⟩,
    not_lt.1 fun hf => h attraction ⟨hrest, hf⟩,
    not_lt.1 fun hc => h complementarity ⟨hrest, hc⟩⟩⟩

theorem not_fails_of_admissible (ht : 0 ≤ tol) (h : r.Admissible σ tol) (w : Violation) :
    ¬w.Fails r σ tol := by
  cases w with
  | penetration =>
    rcases h with hopen | ⟨hclosed, -⟩
    · exact not_lt.2 (by linarith)
    · exact not_lt.2 (σ.abs_le_iff.1 hclosed).1
  | approach =>
    rintro ⟨hclosed, hv⟩
    rcases h with hopen | ⟨-, hopening | ⟨hrest, -⟩⟩
    · exact absurd (σ.abs_le_iff.1 hclosed).2 (not_le.2 hopen)
    · linarith
    · exact absurd (σ.abs_le_iff.1 hrest).1 (not_le.2 hv)
  | acceleration => exact fun hw => not_le.2 hw.2 (h.of_resting hw.1).1
  | attraction => exact fun hw => not_le.2 hw.2 (h.of_resting hw.1).2.1
  | complementarity => exact fun hw => not_le.2 hw.2 (h.of_resting hw.1).2.2

theorem first?_eq_none_iff_admissible (ht : 0 ≤ tol) :
    first? r σ tol = none ↔ r.Admissible σ tol := by
  rw [first?_eq_none_iff]
  exact ⟨admissible_of_forall, not_fails_of_admissible ht⟩

/-- Of a contact at rest the acceleration, the force and their product are looked at. -/
theorem first?_of_resting (hp : ¬penetration.Fails r σ tol) (hv : ¬approach.Fails r σ tol)
    (h : r.Resting tol) :
    first? r σ tol =
      if σ.toScalar * r.acceleration < -tol then some acceleration
      else if -σ.toScalar * r.multiplier < -tol then some attraction
      else if tol < |r.acceleration * r.multiplier| then some complementarity
      else none := by
  have ha : acceleration.Fails r σ tol ↔ _ := and_iff_right h
  have hf : attraction.Fails r σ tol ↔ _ := and_iff_right h
  have hc : complementarity.Fails r σ tol ↔ _ := and_iff_right h
  simp only [← ha, ← hf, ← hc]
  clear ha hf hc
  split_ifs <;> simp [first?, inOrder, *]

end Violation

/-! ### The search for a violated condition -/

namespace Unilateral

variable [Unilateral κ ℝ] {c : κ} {s : State ℝ}

/-- The contact tells this of itself, as far as its conditions look at it. A contact without
multiplier counts as one whose multiplier is zero. -/
structure Tells (c : κ) (s : State ℝ) (tol : ℝ) (r : Kinetics ℝ) : Prop where
  position : positionError c s = .ok r.position
  velocity : r.Closed tol → velocityError c s = .ok r.velocity
  acceleration : r.Resting tol → accelerationError c s = .ok r.acceleration
  multiplier : r.Resting tol → ∃ m, multiplier c s = .ok m ∧ m.getD 0 = r.multiplier

theorem Tells.violation_eq (ht : 0 ≤ tol) (h : Tells c s tol r) :
    violation c s tol = .ok (Violation.first? r (sense c) tol) := by
  unfold violation
  simp only [h.position, Sense.apply_eq_mul, bind, Except.bind, pure, Except.pure]
  split
  · rename_i hp
    have hpen : Violation.penetration.Fails r (sense c) tol := hp
    simp [Violation.first?, Violation.inOrder, hpen]
  rename_i hp
  have hpen : ¬Violation.penetration.Fails r (sense c) tol := hp
  split
  · rename_i hopen
    rw [(Violation.first?_eq_none_iff_admissible ht).2 (.inl hopen)]
  rename_i hp'
  have hclosed : r.Closed tol := (sense c).abs_le_iff.2 ⟨not_lt.1 hp, not_lt.1 hp'⟩
  rw [h.velocity hclosed]
  dsimp only
  split
  · rename_i hv
    have happ : Violation.approach.Fails r (sense c) tol := ⟨hclosed, hv⟩
    simp [Violation.first?, Violation.inOrder, hpen, happ]
  rename_i hv
  split
  · rename_i hopening
    rw [(Violation.first?_eq_none_iff_admissible ht).2 (.inr ⟨hclosed, .inl hopening⟩)]
  rename_i hv'
  have hrest : r.Resting tol := ⟨hclosed, (sense c).abs_le_iff.2 ⟨not_lt.1 hv, not_lt.1 hv'⟩⟩
  obtain ⟨m, hm, hforce⟩ := h.multiplier hrest
  rw [h.acceleration hrest, hm, Violation.first?_of_resting hpen (fun h => hv h.2) hrest]
  simp only [hforce, ← neg_mul, apply_ite Except.ok]
  rfl

theorem exists_tells (h : Answered (violation c s tol)) : ∃ r, Tells c s tol r := by
  unfold violation at h
  obtain ⟨p, hp, h⟩ := h.of_bind
  by_cases hclosed : |p| ≤ tol
  · obtain ⟨hpen, hopen⟩ := (sense c).not_lt_of_abs_le hclosed
    rw [if_neg hpen, if_neg hopen] at h
    obtain ⟨v, hv, h⟩ := h.of_bind
    by_cases hrest : |v| ≤ tol
    · obtain ⟨happ, hopening⟩ := (sense c).not_lt_of_abs_le hrest
      rw [if_neg happ, if_neg hopening] at h
      obtain ⟨a, ha, h⟩ := h.of_bind
      obtain ⟨m, hm, -⟩ := h.of_bind
      exact ⟨⟨p, v, a, m.getD 0⟩, hp, fun _ => hv, fun _ => ha, fun _ => ⟨m, hm, rfl⟩⟩
    -- what is not looked at may be anything
    · exact ⟨⟨p, v, 0, 0⟩, hp, fun _ => hv, fun h => absurd h.2 hrest, fun h => absurd h.2 hrest⟩
  · exact ⟨⟨p, 0, 0, 0⟩, hp, fun h => absurd h hclosed, fun h => absurd h.1 hclosed,
      fun h => absurd h.1 hclosed⟩

/-- The search only asks for what it looks at. -/
theorem violation_answered_iff (ht : 0 ≤ tol) :
    Answered (violation c s tol) ↔ ∃ r, Tells c s tol r :=
  ⟨exists_tells, fun ⟨_, h⟩ => ⟨_, h.violation_eq ht⟩⟩

theorem exists_fails_of_violation (ht : 0 ≤ tol) {w : Violation}
    (h : violation c s tol = .ok (some w)) : ∃ r, Tells c s tol r ∧ w.Fails r (sense c) tol := by
  obtain ⟨r, hr⟩ := exists_tells ⟨_, h⟩
  rw [hr.violation_eq ht] at h
  exact ⟨r, hr, Violation.fails_of_first? (Except.ok.inj h)⟩

/-- A contact that has no multiplier is not found to have a wrong force. -/
theorem violation_of_no_multiplier (ht : 0 ≤ tol) (hm : multiplier c s = .ok none) :
    violation c s tol ≠ .ok (some .attraction) ∧
      violation c s tol ≠ .ok (some .complementarity) := by
  have hforce {r : Kinetics ℝ} (hr : Tells c s tol r) (hrest : r.Resting tol) :
      r.multiplier = 0 := by
    obtain ⟨m, hm', hr⟩ := hr.multiplier hrest
    cases hm.symm.trans hm'
    exact hr.symm
  constructor
  · intro h
    obtain ⟨r, hr, hrest, hf⟩ := exists_fails_of_violation ht h
    rw [hforce hr hrest, mul_zero] at hf
    linarith
  · intro h
    obtain ⟨r, hr, hrest, hf⟩ := exists_fails_of_violation ht h
    rw [hforce hr hrest, mul_zero, abs_zero] at hf
    linarith

end Unilateral

/-- The search for a violated condition, in exact arithmetic. It is answered whenever all
that it looks at is, and then names the first clause that is violated by more than the
tolerance; it names none exactly if the contact is open, or closed and opening, or it
rests with the acceleration, the force and their product as they should be. Without
tolerance these are the conditions as they are documented. A contact with a lock is not
found to have a wrong force while it is disabled, nor from a change of any switch until the
positions are realized. -/
theorem first_violation_found :
    (∀ {κ : Type} [Unilateral κ ℝ] (c : κ) (s : State ℝ) (tol : ℝ), 0 ≤ tol →
      (Answered (Unilateral.violation c s tol) ↔ ∃ r, Unilateral.Tells c s tol r) ∧
      ∀ r, Unilateral.Tells c s tol r →
        (Unilateral.violation c s tol = .ok none ↔ r.Admissible (Unilateral.sense c) tol) ∧
        ∀ w, Unilateral.violation c s tol = .ok (some w) ↔
          w.Fails r (Unilateral.sense c) tol ∧
            ∀ w' ∈ Violation.inOrder.takeWhile (· ≠ w), ¬w'.Fails r (Unilateral.sense c) tol) ∧
    (∀ {κ : Type} [Unilateral κ ℝ] (c : κ) (s : State ℝ) (r : Kinetics ℝ),
      Unilateral.Tells c s 0 r →
        ∃ b, Unilateral.satisfies c s 0 = .ok b ∧ (b = true ↔ r.Valid (Unilateral.sense c))) ∧
    ∀ (c : Contact ℝ) (l : Lock ℝ) (tol : ℝ), c.lock? = some l → 0 ≤ tol →
      (∀ s, Unilateral.isEnabled c s = .ok false →
        Unilateral.violation c s tol ≠ .ok (some .attraction) ∧
          Unilateral.violation c s tol ≠ .ok (some .complementarity)) ∧
      ∀ (s : State ℝ) (op : Operation ℝ) more, (op.run s).state.flags ≠ s.flags →
        Operation.Throughout (fun op s => op.passesPosition s = false) more (op.run s).state →
          let r := Operation.runAll more (op.run s).state
          Unilateral.violation c r tol ≠ .ok (some .attraction) ∧
            Unilateral.violation c r tol ≠ .ok (some .complementarity) := by
  refine ⟨fun c s tol ht => ⟨Unilateral.violation_answered_iff ht, fun r hr => ⟨?_, fun w => ?_⟩⟩,
    fun c s r hr => ?_, fun c l tol hl ht => ?_⟩
  · rw [hr.violation_eq ht, Except.ok.injEq, Violation.first?_eq_none_iff_admissible ht]
  · rw [hr.violation_eq ht, Except.ok.injEq, Violation.first?_eq_some_iff]
  · refine ⟨_, congrArg (Except.map Option.isNone) (hr.violation_eq le_rfl), ?_⟩
    rw [Option.isNone_iff_eq_none, Violation.first?_eq_none_iff_admissible le_rfl,
      Kinetics.admissible_zero_iff]
  · have hquiet {s : State ℝ} (hblock : s.multiplierBlock l.constraint = .ok none) :
        Unilateral.violation c s tol ≠ .ok (some .attraction) ∧
          Unilateral.violation c s tol ≠ .ok (some .complementarity) :=
      Unilateral.violation_of_no_multiplier ht
        (Element.force_of_none (e := .contact c) rfl hl hblock)
    refine ⟨fun s hs => hquiet (State.multiplierBlock_of_disabled ?_), fun s op more hf hmore =>
      hquiet (State.multiplierBlock_of_stale (Operation.stale_of_switched hf hmore))⟩
    rw [← (Element.contact c).isEnabled_of_lock hl]
    exact hs

omit [Grain] in
/-- An upper stop that pulls while its coordinate rests at the limit. Before it was enabled
and until it was realized its force did not count. -/
theorem first_violation_found_of_stop :
    let _ : Grain := ⟨2⁻¹ ^ 52⟩
    let body : Mobilizer := ⟨⟨1⟩, 0, 1⟩
    let stop : Contact ℝ := .stop ⟨.upper, body, 0, 0, ⟨1, none⟩, ⟨⟨0⟩, 0, 0⟩, none⟩
    let t : Topology := ⟨[⟨Handle.ground, 0, 0⟩, body], 1, [1]⟩
    let on : Operation ℝ := .switch (.contact stop) true
    let new : State ℝ := t.allocate
    let pulled := Operation.runAll
      [.realize t .velocity, .setMultiplier 0 (-1)] (on.run new).state
    let r : Kinetics ℝ := ⟨0, 0, 0, -1⟩
    Unilateral.Tells stop pulled 0 r ∧
      Unilateral.violation stop pulled 0 = .ok (some .attraction) ∧
      ¬r.Valid (Unilateral.sense stop) ∧ Unilateral.satisfies stop pulled 0 = .ok false ∧
      Unilateral.isEnabled stop new = .ok false ∧
      Unilateral.violation stop new 0 ≠ .ok (some .attraction) ∧
      (on.run new).state.flags ≠ new.flags ∧
      Unilateral.violation stop (on.run new).state 0 ≠ .ok (some .attraction) := by
  intro _ body stop t on new pulled r
  obtain ⟨hsearch, hvalid, hquiet⟩ := first_violation_found
  have hp : Unilateral.positionError stop pulled = .ok r.position :=
    congrArg Except.ok (sub_zero 0)
  have hv : Unilateral.velocityError stop pulled = .ok r.velocity := rfl
  have ha : Unilateral.accelerationError stop pulled = .ok r.acceleration := rfl
  have hm : Unilateral.multiplier stop pulled = .ok (some (-1)) := rfl
  have htells : Unilateral.Tells stop pulled 0 r :=
    ⟨hp, fun _ => hv, fun _ => ha, fun _ => ⟨_, hm, rfl⟩⟩
  have hsense : ((Unilateral.sense stop).toScalar : ℝ) = -1 := by
    change ((-1 : ℤ) : ℝ) = -1
    norm_num
  have hclosed : r.Closed 0 := by simp [Kinetics.Closed, r]
  have hrest : r.Resting 0 := ⟨hclosed, by simp [r]⟩
  have hfails : Violation.attraction.Fails r (Unilateral.sense stop) 0 := by
    refine ⟨hrest, ?_⟩
    rw [hsense]
    norm_num [r]
  have hinvalid : ¬r.Valid (Unilateral.sense stop) := by
    intro h
    have hforce := (h.rest rfl rfl).2.1
    rw [hsense] at hforce
    norm_num [r] at hforce
  have hon : (on.run new).state.flags ≠ new.flags := by decide
  obtain ⟨hsearch, hvalid, hquiet⟩ := first_violation_found
  obtain ⟨b, hb, hiff⟩ := hvalid stop pulled r htells
  have hno : b = false := Bool.eq_false_iff.2 fun h => hinvalid (hiff.1 h)
  obtain ⟨hdisabled, hstale⟩ := hquiet stop _ 0 rfl le_rfl
  refine ⟨htells, ?_, hinvalid, hno ▸ hb, rfl, (hdisabled new rfl).1, hon,
    (hstale new on [] hon trivial).1⟩
  refine (((hsearch stop pulled 0 le_rfl).2 r htells).2 _).2 ⟨hfails, ?_⟩
  intro w hw
  have hbefore : w = .penetration ∨ w = .approach ∨ w = .acceleration := by
    simpa [Violation.inOrder, List.takeWhile] using hw
  rcases hbefore with rfl | rfl | rfl <;> simp [Violation.Fails, r]

end OneSided
