import OneSided.Proofs.Assembly.Growth
import OneSided.Proofs.State.Effect

/-! Which states an assembly accepts. A state is looked at by its lengths only. Main
statements: an assembly accepts the states that it has allocated itself until it registers
another body or constraint, whatever was done to them; and a state of another assembly is
accepted exactly when the totals of both agree, which does not make the layouts agree. -/

namespace OneSided

variable {α : Type} [Scalar α]

namespace Topology

/-- A state keeps the lengths that it was allocated with. -/
theorem matchesState_runAll_allocate (t t' : Topology) (ops : List (Operation α)) :
    t'.matchesState (Operation.runAll ops t.allocate) = true ↔
      t.coordinates = t'.coordinates ∧ t.bodies.length = t'.bodies.length ∧
        t.sizes.length = t'.sizes.length := by
  rw [Operation.matchesState_runAll]
  simp [matchesState, allocate]

omit [Scalar α] in
theorem extent_eq_of_lengths {t t' : Topology} (hb : t.bodies.length = t'.bodies.length)
    (hs : t.sizes.length = t'.sizes.length) : t.extent = t'.extent :=
  congrArg₂ (· + ·) hb hs

/-- Realizing has an answer exactly where the lengths agree. -/
theorem realize_answer_iff (t : Topology) (s : State α) (stage : Stage) :
    ((t.realize s stage).answer = .ok () ↔ t.matchesState s = true) ∧
    ((t.realize s stage).answer = .error .topology ↔ ¬t.matchesState s = true) := by
  cases hm : t.matchesState s with
  | false => simp [realize_of_mismatch hm]
  | true => simp [(realize_of_match hm stage).1]

end Topology

/-- Whatever is done to an assembly and to a state that it has allocated, in any order: the
state is refused exactly if a body was added or a constraint registered since the
allocation, and then it stays as it was. Constructors that fail and elements that are
handed over do not count. -/
theorem realize_refused_iff_grown (pre post : List (BuildStep α)) (ops : List (Operation α))
    (stage : Stage) :
    let w := Workshop.build pre
    let t := (Workshop.build (pre ++ post)).topology
    let s := Operation.runAll ops w.topology.allocate
    ((t.realize s stage).answer = .error .topology ↔ w.Grows post) ∧
    ((t.realize s stage).answer = .ok () ↔ ¬w.Grows post) ∧
    ((t.realize s stage).answer ≠ .ok () → t.realize s stage = ⟨s, .error .topology, []⟩) := by
  intro w t s
  have hmatch : t.matchesState s = true ↔ ¬w.Grows post := by
    have ht : t = (w.after post).topology :=
      congrArg Workshop.topology (Workshop.build_append pre post)
    rw [Topology.matchesState_runAll_allocate, ht]
    rcases w.after_cases post with ⟨hg, hlt⟩ | ⟨hg, heq⟩
    · refine iff_of_false (fun h => ?_) (not_not.2 hg)
      exact Nat.ne_of_lt hlt (Topology.extent_eq_of_lengths h.2.1 h.2.2)
    · rw [heq]
      exact iff_of_true ⟨rfl, rfl, rfl⟩ hg
  obtain ⟨hok, herror⟩ := t.realize_answer_iff s stage
  refine ⟨by rw [herror, hmatch, not_not], by rw [hok, hmatch], fun hno => ?_⟩
  rw [ne_eq, hok, Bool.not_eq_true] at hno
  exact Topology.realize_of_mismatch hno stage

/-- A body without coordinates is enough to have a state refused, and a constructor that
fails is not. -/
theorem realize_refused_of_body :
    let pre : List (BuildStep Float) := [.body 1]
    let post : List (BuildStep Float) := [.make (.motor ⟨⟨1⟩, 0, 1⟩ 1 0 2), .body 0]
    let s : State Float := Operation.runAll [.setCoordinate 0 3]
      (Workshop.build pre).topology.allocate
    ((Workshop.build pre).Grows post ∧
      (Workshop.build (pre ++ post)).topology.realize s .position = ⟨s, .error .topology, []⟩) ∧
    ¬(Workshop.build pre).Grows (post.take 1) ∧
      ((Workshop.build (pre ++ post.take 1)).topology.realize s .position).answer = .ok () := by
  intro pre post s
  obtain ⟨hrefused, -, hstate⟩ := realize_refused_iff_grown pre post [.setCoordinate 0 3] .position
  obtain ⟨-, haccepted, -⟩ :=
    realize_refused_iff_grown pre (post.take 1) [.setCoordinate 0 3] .position
  have hgrows : (Workshop.build pre).Grows post := ⟨post.take 1, .body 0, [], rfl, trivial⟩
  have hok : ((Workshop.build (pre ++ post.take 1)).topology.realize s .position).answer = .ok () :=
    rfl
  refine ⟨⟨hgrows, hstate ?_⟩, haccepted.1 hok, hok⟩
  rw [hrefused.2 hgrows]
  exact nofun

/-! ### States of other assemblies -/

/-- A state that one topology has allocated is accepted by another one exactly if both have
as many coordinates, bodies and constraints. It stays laid out for the first one. -/
theorem foreign_state_accepted_iff (t t' : Topology) (ops : List (Operation α)) (stage : Stage) :
    let s := Operation.runAll ops t.allocate
    ((t'.realize s stage).answer = .ok () ↔
      t.coordinates = t'.coordinates ∧ t.bodies.length = t'.bodies.length ∧
        t.sizes.length = t'.sizes.length) ∧
    (t'.realize s stage).state.sizes = t.sizes := by
  intro s
  rw [(t'.realize_answer_iff s stage).1, Topology.matchesState_runAll_allocate]
  exact ⟨Iff.rfl, (Effect.realize t' s stage).sizes.trans
    ((Operation.sizes_runAll ops _).trans t.sizes_allocate)⟩

/-- Neither the shares of the bodies nor the sizes of the constraints have to agree. -/
theorem foreign_state_accepted :
    let ball : Ball Float := ⟨Handle.ground, ⟨.id, 0⟩, ⟨1⟩, 0, 0⟩
    let t := (Workshop.build
      [.body 1, .body 2, .make (.coordinateLock ⟨⟨1⟩, 0, 1⟩ 0 (0 : Float))]).topology
    let t' := (Workshop.build [.body 2, .body 1, .make (.stickingBall ball)]).topology
    (t'.realize (t.allocate : State Float) .position).answer = .ok () ∧
      t.bodies ≠ t'.bodies ∧ t.sizes ≠ t'.sizes := by
  intro ball t t'
  exact ⟨rfl, by decide, by decide⟩

end OneSided
