import OneSided.Proofs.Assembly.Workshop

/-! How an assembly grows. Bodies and constraints are only ever added, behind those that
are there, and each step adds one of them or nothing at all. -/

namespace OneSided

variable {α : Type}

/-- The second topology has all that the first one has, and perhaps more behind it. -/
structure Topology.GrowsTo (t t' : Topology) : Prop where
  bodies : t.bodies <+: t'.bodies
  coordinates : t.coordinates ≤ t'.coordinates
  sizes : t.sizes <+: t'.sizes

/-- Bodies and constraints taken together. -/
def Topology.extent (t : Topology) : Nat := t.bodies.length + t.sizes.length

namespace Topology

theorem extent_addBody (t : Topology) (count : Nat) :
    (t.addBody count).2.extent = t.extent + 1 := by
  simp only [extent, addBody, List.length_append, List.length_singleton]
  omega

theorem extent_addConstraint (t : Topology) (size : Nat) :
    (t.addConstraint size).2.extent = t.extent + 1 := by
  simp only [extent, addConstraint, List.length_append, List.length_singleton]
  omega

end Topology

namespace Topology.GrowsTo

variable {t t' t'' : Topology}

theorem refl (t : Topology) : t.GrowsTo t := ⟨List.prefix_rfl, Nat.le_refl _, List.prefix_rfl⟩

theorem trans (h : t.GrowsTo t') (h' : t'.GrowsTo t'') : t.GrowsTo t'' :=
  ⟨h.bodies.trans h'.bodies, h.coordinates.trans h'.coordinates, h.sizes.trans h'.sizes⟩

theorem addBody (t : Topology) (count : Nat) : t.GrowsTo (t.addBody count).2 :=
  ⟨List.prefix_append .., Nat.le_add_right .., List.prefix_rfl⟩

theorem addConstraint (t : Topology) (size : Nat) : t.GrowsTo (t.addConstraint size).2 :=
  ⟨List.prefix_rfl, Nat.le_refl _, List.prefix_append ..⟩

theorem extent_le (h : t.GrowsTo t') : t.extent ≤ t'.extent :=
  Nat.add_le_add h.bodies.length_le h.sizes.length_le

end Topology.GrowsTo

variable [Scalar α]

/-- What a step registers: a body, or the constraint of a constructor that succeeds. -/
def BuildStep.Registers (x : BuildStep α) (w : Workshop α) : Prop :=
  match x with
  | body _ => True
  | make p => ∃ r, p.make w.topology = .ok r
  | addContact _ | addFriction _ | addDrive _ => False

namespace Workshop

/-- The workshop after more steps. -/
def after (w : Workshop α) (steps : List (BuildStep α)) : Workshop α := steps.foldl step w

theorem build_append (pre post : List (BuildStep α)) :
    build (pre ++ post) = (build pre).after post := List.foldl_append

/-- A step adds a body, or a constructor that succeeds registers its constraint, or the
topology stays as it is. -/
theorem topology_step_cases (w : Workshop α) (x : BuildStep α) :
    (∃ count, x = .body count ∧ (w.step x).topology = (w.topology.addBody count).2) ∨
    (∃ p, x = .make p ∧ (∃ r, p.make w.topology = .ok r) ∧
      (w.step x).topology = (w.topology.addConstraint p.size).2) ∨
    (∀ count, x ≠ .body count) ∧ ¬x.Registers w ∧ (w.step x).topology = w.topology := by
  cases x with
  | body count => exact .inl ⟨count, rfl, rfl⟩
  | make p =>
    rcases p.make_cases w.topology with ⟨-, e, -, -, he⟩ | ⟨-, r, -, hr⟩
    · exact .inr (.inl ⟨p, rfl, ⟨_, he⟩, by simp only [step, he]; rfl⟩)
    · have hno : ¬∃ r, p.make w.topology = .ok r := by simp [hr]
      exact .inr (.inr ⟨by simp, hno, by simp only [step, hr]⟩)
  | addContact | addFriction | addDrive => exact .inr (.inr ⟨by simp, id, rfl⟩)

/-- A step registers one body or one constraint behind those that are there, or nothing. -/
theorem step_cases (w : Workshop α) (x : BuildStep α) :
    (x.Registers w ∧ w.topology.GrowsTo (w.step x).topology ∧
      (w.step x).topology.extent = w.topology.extent + 1) ∨
    ¬x.Registers w ∧ (w.step x).topology = w.topology := by
  rcases w.topology_step_cases x with ⟨count, rfl, h⟩ | ⟨p, rfl, hp, h⟩ | ⟨-, hx, h⟩
  · exact .inl ⟨trivial, h ▸ .addBody .., h ▸ Topology.extent_addBody ..⟩
  · exact .inl ⟨hp, h ▸ .addConstraint .., h ▸ Topology.extent_addConstraint ..⟩
  · exact .inr ⟨hx, h⟩

theorem growsTo_step (w : Workshop α) (x : BuildStep α) :
    w.topology.GrowsTo (w.step x).topology := by
  rcases w.step_cases x with ⟨-, h, -⟩ | ⟨-, h⟩
  · exact h
  · exact h ▸ .refl _

theorem growsTo_after (w : Workshop α) (steps : List (BuildStep α)) :
    w.topology.GrowsTo (w.after steps).topology := by
  induction steps generalizing w with
  | nil => exact .refl _
  | cons x steps ih => exact (w.growsTo_step x).trans (ih _)

/-- One of the steps registers something. -/
def Grows (w : Workshop α) (steps : List (BuildStep α)) : Prop :=
  ∃ before x rest, steps = before ++ x :: rest ∧ x.Registers (w.after before)

theorem grows_cons {w : Workshop α} {x : BuildStep α} {steps : List (BuildStep α)} :
    w.Grows (x :: steps) ↔ x.Registers w ∨ (w.step x).Grows steps := by
  constructor
  · rintro ⟨before, y, rest, h, hy⟩
    cases before with
    | nil =>
      cases h
      exact .inl hy
    | cons z before =>
      cases h
      exact .inr ⟨before, y, rest, rfl, hy⟩
  · rintro (hx | ⟨before, y, rest, rfl, hy⟩)
    · exact ⟨[], x, steps, rfl, hx⟩
    · exact ⟨x :: before, y, rest, rfl, hy⟩

/-- Steps that register nothing leave the topology alone, and all others make it larger. -/
theorem after_cases (w : Workshop α) (steps : List (BuildStep α)) :
    (w.Grows steps ∧ w.topology.extent < (w.after steps).topology.extent) ∨
    ¬w.Grows steps ∧ (w.after steps).topology = w.topology := by
  induction steps generalizing w with
  | nil =>
    refine .inr ⟨?_, rfl⟩
    rintro ⟨before, y, rest, h, -⟩
    cases before <;> cases h
  | cons x steps ih =>
    rw [grows_cons]
    -- What the first step has added, no later step takes away.
    have hle : (w.step x).topology.extent ≤ ((w.step x).after steps).topology.extent :=
      (growsTo_after _ steps).extent_le
    rcases w.step_cases x with ⟨hx, -, hlen⟩ | ⟨hx, ht⟩
    · exact .inl ⟨.inl hx, by rw [hlen] at hle; exact hle⟩
    · rcases ih (w.step x) with ⟨hs, hlt⟩ | ⟨hs, heq⟩
      · exact .inl ⟨.inr hs, ht ▸ hlt⟩
      · exact .inr ⟨not_or.2 ⟨hx, hs⟩, heq.trans ht⟩

end Workshop

end OneSided
