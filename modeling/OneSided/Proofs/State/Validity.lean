import OneSided.Proofs.State.Frame

/-! How far a state is computed, over whole runs. Each operation invalidates a stage with
all that follow it, or none; only a realization reaches further. Main statement: a state
is computed up to a stage exactly when a realization has reached that stage, or a later
one, and nothing has invalidated it since. Realizing in two steps is realizing once. -/

namespace OneSided

variable {α : Type}

/-! ### Stages in order -/

instance : LinearOrder Stage where
  le := (· ≤ ·)
  lt := (· < ·)
  le_refl _ := Nat.le_refl _
  le_trans _ _ _ := Nat.le_trans
  lt_iff_le_not_ge _ _ := Nat.lt_iff_le_and_not_ge
  le_antisymm _ _ h h' := Stage.rank_injective (Nat.le_antisymm h h')
  le_total _ _ := Nat.le_total _ _
  toDecidableLE := inferInstance
  toDecidableLT := inferInstance

/-- Above the first stage, the stage before is the next lower one. -/
theorem Stage.le_prev_iff {S first : Stage} (hS : .topology < S) : S ≤ first.prev ↔ S < first := by
  cases S with
  | topology => exact absurd hS (lt_irrefl _)
  | _ => cases first <;> decide

theorem Stage.le_invalidate_iff {S s first : Stage} (hS : .topology < S) :
    S ≤ s.invalidate first ↔ S ≤ s ∧ ¬first ≤ S := by
  unfold invalidate
  split
  · rename_i hs
    rw [le_prev_iff hS, not_le]
    exact ⟨fun h => ⟨(h.trans_le hs).le, h⟩, fun h => h.2⟩
  · rename_i hs
    exact ⟨fun h => ⟨h, fun hf => hs (hf.trans h)⟩, fun h => h.1⟩

/-! ### What an operation does to the stage -/

variable [Scalar α]

namespace Operation

/-- The stage that an operation invalidates, with all that follow it. -/
def invalidates? (op : Operation α) (s : State α) : Option Stage :=
  match op with
  | setTime _ | setCoordinate .. | modifyMotion .. => some .position
  | setSpeed .. => some .velocity
  | setRate .. => some .acceleration
  | invalidate first => some first
  | switch e on =>
    match (e.switch s on).answer with
    | .ok true => some .position
    | _ => none
  | setAnchor l p =>
    match (l.setAnchor s p).answer with
    | .ok () => some .position
    | .error _ => none
  | setMultiplier .. | realize .. => none

/-- An operation invalidates a stage, or it realizes one, or the stage stays. -/
theorem stage_run (op : Operation α) (s : State α) :
    (∃ first, op.invalidates? s = some first ∧
      (op.run s).state.stage = s.stage.invalidate first) ∨
    op.invalidates? s = none ∧
      ((∃ t stage, op = .realize t stage ∧ t.matchesState s = true ∧
        (op.run s).state.stage = max s.stage stage) ∨
      (∀ t stage, op = .realize t stage → t.matchesState s = false) ∧
        (op.run s).state.stage = s.stage) := by
  cases op with
  | setTime | invalidate => exact .inl ⟨_, rfl, rfl⟩
  | setCoordinate => rw [run_setCoordinate]; exact .inl ⟨_, rfl, rfl⟩
  | setSpeed => rw [run_setSpeed]; exact .inl ⟨_, rfl, rfl⟩
  | setRate => rw [run_setRate]; exact .inl ⟨_, rfl, rfl⟩
  | modifyMotion => rw [run_modifyMotion]; exact .inl ⟨_, rfl, rfl⟩
  | setMultiplier => rw [run_setMultiplier]; exact .inr ⟨rfl, .inr ⟨by simp, rfl⟩⟩
  | switch e on =>
    change (∃ first, _ ∧ (e.switch s on).state.stage = _) ∨ _ ∧
      (_ ∨ _ ∧ (e.switch s on).state.stage = _)
    rcases e.switch_cases s on with ⟨hs, ha⟩ | ⟨l, a, -, -, -, hs, ha⟩ <;> rw [hs]
    · exact .inr ⟨by simp only [invalidates?], .inr ⟨by simp, rfl⟩⟩
    · exact .inl ⟨.position, by simp only [invalidates?, ha], rfl⟩
  | setAnchor l p =>
    change (∃ first, _ ∧ (l.setAnchor s p).state.stage = _) ∨ _ ∧
      (_ ∨ _ ∧ (l.setAnchor s p).state.stage = _)
    rcases l.setAnchor_cases p s with ⟨f, h⟩ | ⟨a, -, h⟩
    · exact .inr ⟨by simp only [invalidates?, h], .inr ⟨by simp, by rw [h]⟩⟩
    · exact .inl ⟨.position, by simp only [invalidates?, h], by rw [h]; rfl⟩
  | realize t stage =>
    refine .inr ⟨rfl, ?_⟩
    rcases run_realize t stage s with ⟨hm, h⟩ | ⟨hm, h⟩
    · refine .inr ⟨fun t' stage' h' => ?_, by rw [h]⟩
      cases h'
      exact hm
    · refine .inl ⟨t, stage, rfl, hm, ?_⟩
      rw [h, max_def_lt]

/-- No operation of the run invalidates a stage up to `S`. -/
def Spares (S : Stage) : List (Operation α) → State α → Prop :=
  Throughout fun op s => ∀ first, op.invalidates? s = some first → ¬first ≤ S

/-- A realization in the run has reached `S`, and nothing has invalidated it since. -/
def Reaches (S : Stage) (ops : List (Operation α)) (s : State α) : Prop :=
  ∃ pre t stage post, ops = pre ++ .realize t stage :: post ∧ t.matchesState s = true ∧
    S ≤ stage ∧ Spares S post (runAll (pre ++ [.realize t stage]) s)

variable {S : Stage}

theorem reaches_nil (s : State α) : ¬Reaches S [] s := by
  rintro ⟨pre, t, stage, post, h, -⟩
  cases pre <;> cases h

/-- The last realization that counts is the first operation, or it comes later. -/
theorem reaches_cons {op : Operation α} {ops : List (Operation α)} {s : State α} :
    Reaches S (op :: ops) s ↔
      (∃ t stage, op = .realize t stage ∧ t.matchesState s = true ∧ S ≤ stage ∧
        Spares S ops (op.run s).state) ∨ Reaches S ops (op.run s).state := by
  constructor
  · rintro ⟨pre, t, stage, post, h, hm, hS, hpost⟩
    cases pre with
    | nil =>
      cases h
      exact .inl ⟨t, stage, rfl, hm, hS, hpost⟩
    | cons op' pre =>
      cases h
      exact .inr ⟨pre, t, stage, post, rfl, ((op.effect s).matchesState t).trans hm, hS, hpost⟩
  · rintro (⟨t, stage, rfl, hm, hS, hops⟩ | ⟨pre, t, stage, post, rfl, hm, hS, hpost⟩)
    · exact ⟨[], t, stage, ops, rfl, hm, hS, hops⟩
    · exact ⟨op :: pre, t, stage, post, rfl, ((op.effect s).matchesState t).symm.trans hm, hS, hpost⟩

/-- One operation keeps a stage that it does not invalidate, and a realization gains one. -/
theorem le_stage_run (hS : .topology < S) (op : Operation α) (s : State α) :
    S ≤ (op.run s).state.stage ↔
      (S ≤ s.stage ∧ ∀ first, op.invalidates? s = some first → ¬first ≤ S) ∨
      ∃ t stage, op = .realize t stage ∧ t.matchesState s = true ∧ S ≤ stage := by
  rcases op.stage_run s with ⟨first, hinv, hstage⟩ |
    ⟨hinv, ⟨t, stage, rfl, hm, hstage⟩ | ⟨hno, hstage⟩⟩
  · have hop : ¬∃ t stage, op = .realize t stage ∧ t.matchesState s = true ∧ S ≤ stage := by
      rintro ⟨t, stage, rfl, -⟩
      cases hinv
    rw [hstage, Stage.le_invalidate_iff hS, hinv]
    simp [hop]
  · rw [hstage, le_max_iff, hinv]
    constructor
    · rintro (h | h)
      · exact .inl ⟨h, by simp⟩
      · exact .inr ⟨t, stage, rfl, hm, h⟩
    · rintro (⟨h, -⟩ | ⟨t', stage', h, -, hle⟩)
      · exact .inl h
      · cases h
        exact .inr hle
  · have hop : ¬∃ t stage, op = .realize t stage ∧ t.matchesState s = true ∧ S ≤ stage := by
      rintro ⟨t, stage, h, hm, -⟩
      simp [hno t stage h] at hm
    rw [hstage, hinv]
    simp [hop]

theorem le_stage_runAll (hS : .topology < S) (ops : List (Operation α)) (s : State α) :
    S ≤ (runAll ops s).stage ↔ S ≤ s.stage ∧ Spares S ops s ∨ Reaches S ops s := by
  induction ops generalizing s with
  | nil => simp [Spares, Throughout, reaches_nil]
  | cons op ops ih =>
    have hcons : Spares S (op :: ops) s ↔
        (∀ first, op.invalidates? s = some first → ¬first ≤ S) ∧ Spares S ops (op.run s).state :=
      Iff.rfl
    rw [runAll_cons, ih, le_stage_run hS, reaches_cons, hcons]
    constructor
    · rintro (⟨⟨hs, hop⟩ | ⟨t, stage, h, hm, hle⟩, hops⟩ | hlater)
      · exact .inl ⟨hs, hop, hops⟩
      · exact .inr (.inl ⟨t, stage, h, hm, hle, hops⟩)
      · exact .inr (.inr hlater)
    · rintro (⟨hs, hop, hops⟩ | ⟨t, stage, h, hm, hle, hops⟩ | hlater)
      · exact .inl ⟨.inl ⟨hs, hop⟩, hops⟩
      · exact .inl ⟨.inr ⟨t, stage, h, hm, hle⟩, hops⟩
      · exact .inr hlater

end Operation

/-! ### Realizing twice -/

theorem State.assignMultipliers_with_stage (s : State α) (stage : Stage) :
    ({ s with stage := stage } : State α).assignMultipliers =
      { s.assignMultipliers with stage := stage } := by
  simp only [assignMultipliers]
  split <;> rfl

/-- Multipliers are laid out once on the way, by whichever realization reaches the
positions first. -/
theorem Topology.realize_realize {t : Topology} {s : State α} (hm : t.matchesState s = true)
    (S₁ S₂ : Stage) :
    (t.realize (t.realize s S₁).state S₂).state = (t.realize s (max S₁ S₂)).state := by
  have hm₁ : t.matchesState (t.realize s S₁).state = true :=
    ((Effect.realize t s S₁).matchesState t).trans hm
  obtain ⟨-, h₁⟩ := Topology.realize_of_match hm S₁
  obtain ⟨-, h₂⟩ := Topology.realize_of_match hm₁ S₂
  obtain ⟨-, h⟩ := Topology.realize_of_match hm (max S₁ S₂)
  rw [← max_def_lt] at h₁ h₂ h
  rw [h₂, h, h₁]
  by_cases hp : .position ≤ S₁
  · have hreached : ¬max s.stage S₁ < .position := not_lt.2 (le_max_of_le_right hp)
    simp only [hp, hreached, le_max_iff, true_or, true_and, and_false, if_false, max_assoc]
  · have hlay : (.position ≤ S₂ ∧ max s.stage S₁ < .position) ↔
        .position ≤ max S₁ S₂ ∧ s.stage < .position := by
      rw [le_max_iff, max_lt_iff]
      have := not_le.1 hp
      tauto
    simp only [hp, hlay, false_and, if_false, max_assoc]
    split
    · rw [State.assignMultipliers_with_stage]
    · rfl

/-- In any run from a new state of a system, a state is computed up to a stage above the
first one exactly when a realization has reached that stage, or a later one, and nothing
has invalidated it since; the modelling is done by the allocation already. Realizing two
stages in turn leaves the same state as realizing the later one. -/
theorem stages_valid (t : Topology) (ops : List (Operation α)) {S : Stage} (hS : .topology < S) :
    (S ≤ (Operation.runAll ops t.allocate).stage ↔
      (S = .model ∧ Operation.Spares S ops t.allocate) ∨ Operation.Reaches S ops t.allocate) ∧
    ∀ (s : State α) (S₁ S₂ : Stage), t.matchesState s = true →
      (t.realize s S₁).answer = .ok () ∧ (t.realize (t.realize s S₁).state S₂).answer = .ok () ∧
      (t.realize (t.realize s S₁).state S₂).state = (t.realize s (max S₁ S₂)).state := by
  refine ⟨?_, fun s S₁ S₂ hm => ?_⟩
  · have hnew : S ≤ (t.allocate : State α).stage ↔ S = .model := by
      change S ≤ .model ↔ _
      cases S with
      | topology => exact absurd hS (lt_irrefl _)
      | _ => decide
    rw [Operation.le_stage_runAll hS, hnew]
  · have hm₁ : t.matchesState (t.realize s S₁).state = true :=
      ((Effect.realize t s S₁).matchesState t).trans hm
    exact ⟨(Topology.realize_of_match hm S₁).1, (Topology.realize_of_match hm₁ S₂).1,
      Topology.realize_realize hm S₁ S₂⟩

/-- A state that is realized and then given another acceleration keeps its velocities. -/
theorem stages_valid_of_rate :
    let t : Topology := (Topology.empty.addBody 1).2
    let ops : List (Operation Float) := [.setSpeed 0 2, .realize t .acceleration, .setRate 0 1]
    let s := Operation.runAll ops t.allocate
    Stage.topology < .velocity ∧ Operation.Reaches .velocity ops t.allocate ∧
      .velocity ≤ s.stage ∧ t.matchesState s = true ∧
      (t.realize (t.realize s .model).state .acceleration).state =
        (t.realize s .acceleration).state := by
  intro t ops s
  have hS : Stage.topology < .velocity := by decide
  have hreaches : Operation.Reaches .velocity ops t.allocate := by
    refine ⟨[.setSpeed 0 2], t, .acceleration, [.setRate 0 1], rfl, rfl, by decide, ?_, trivial⟩
    intro first hfirst
    cases hfirst
    decide
  have hm : t.matchesState s = true :=
    (Operation.matchesState_runAll t ops _).trans t.matchesState_allocate
  obtain ⟨hiff, hrealize⟩ := stages_valid t ops hS
  exact ⟨hS, hreaches, hiff.2 (.inr hreaches), hm, (hrealize s .model .acceleration hm).2.2⟩

end OneSided
