import OneSided.Proofs.State.Frame

/-! Which questions about a state have an answer. A state that fits a topology has an entry
for each of its coordinates, a motion for each of its bodies and a slot for each of its
constraints. Main statement: a state that a topology has allocated fits it after every run. -/

namespace OneSided

variable {α β γ : Type}

/-! ### Answers -/

/-- The question has an answer. -/
def Answered (x : Except (Fault α) β) : Prop := ∃ y, x = .ok y

/-- If the question has no answer, then not because an index was out of bounds. -/
def InBounds (x : Except (Fault α) β) : Prop := x ≠ .error .outOfBounds

section Answers

variable {x : Except (Fault α) β} {f : β → Except (Fault α) γ}

theorem Answered.bind (hx : Answered x) (hf : ∀ y, Answered (f y)) : Answered (x >>= f) := by
  obtain ⟨y, rfl⟩ := hx
  exact hf y

theorem Answered.of_bind (h : Answered (x >>= f)) : ∃ y, x = .ok y ∧ Answered (f y) := by
  cases x with
  | error =>
    obtain ⟨z, hz⟩ := h
    cases hz
  | ok y => exact ⟨y, rfl, h⟩

/-- What is made of an answer is an answer. -/
theorem Answered.map (hx : Answered x) (g : β → γ) : Answered (do return g (← x)) :=
  hx.bind fun y => ⟨g y, rfl⟩

theorem Answered.inBounds (hx : Answered x) : InBounds x := by
  obtain ⟨y, rfl⟩ := hx
  exact nofun

theorem InBounds.bind (hx : InBounds x) (hf : ∀ y, InBounds (f y)) : InBounds (x >>= f) := by
  cases x with
  | error => exact fun h => hx (congrArg Except.error (Except.error.inj h))
  | ok y => exact hf y

theorem Fault.fetch_answered {xs : List β} {i : Nat} (h : i < xs.length) :
    Answered (Fault.fetch xs i : Except (Fault α) β) :=
  ⟨_, fetch_of_lt h⟩

end Answers

/-! ### States that fit a topology -/

/-- The arrays of a state have the lengths that a topology asks for, and its slots the sizes. -/
structure Topology.Fits (t : Topology) (s : State α) : Prop where
  q : s.q.length = t.coordinates
  u : s.u.length = t.coordinates
  udot : s.udot.length = t.coordinates
  motions : s.motions.length = t.bodies.length
  sizes : s.sizes = t.sizes

namespace Topology.Fits

variable {t : Topology} {s : State α}

section Running

variable [Scalar α]

theorem allocate (t : Topology) : t.Fits (t.allocate : State α) :=
  ⟨List.length_replicate, List.length_replicate, List.length_replicate, List.length_replicate,
    t.sizes_allocate⟩

/-- No operation changes a length. -/
theorem run (h : t.Fits s) (op : Operation α) : t.Fits (op.run s).state := by
  have hsizes := (op.effect s).sizes.trans h.sizes
  cases hm : op.moves with
  | false =>
    have hsame := Operation.sameMotion_run hm s
    exact ⟨hsame.q ▸ h.q, hsame.u ▸ h.u, hsame.udot ▸ h.udot, hsame.motions ▸ h.motions, hsizes⟩
  | true =>
    -- One array is written, and writing keeps its length.
    cases op with
    | setCoordinate i v =>
      rw [Operation.run_setCoordinate] at hsizes ⊢
      exact ⟨List.length_set.trans h.q, h.u, h.udot, h.motions, hsizes⟩
    | setSpeed i v =>
      rw [Operation.run_setSpeed] at hsizes ⊢
      exact ⟨h.q, List.length_set.trans h.u, h.udot, h.motions, hsizes⟩
    | setRate i v =>
      rw [Operation.run_setRate] at hsizes ⊢
      exact ⟨h.q, h.u, List.length_set.trans h.udot, h.motions, hsizes⟩
    | modifyMotion b change =>
      rw [Operation.run_modifyMotion] at hsizes ⊢
      exact ⟨h.q, h.u, h.udot, (List.length_modify ..).trans h.motions, hsizes⟩
    | _ => cases hm

theorem runAll (h : t.Fits s) (ops : List (Operation α)) : t.Fits (Operation.runAll ops s) :=
  List.foldlRecOn ops _ h fun _ hs op _ => hs.run op

end Running

variable {c : Handle .constraint} {i : Nat}

theorem slots (h : t.Fits s) : s.slots.length = t.sizes.length := by
  rw [← h.sizes, State.sizes, List.length_map]

/-! ### What such a state answers -/

theorem coordinate (h : t.Fits s) (hi : i < t.coordinates) : Answered (s.coordinate i) :=
  Fault.fetch_answered (h.q ▸ hi)

theorem speed (h : t.Fits s) (hi : i < t.coordinates) : Answered (s.speed i) :=
  Fault.fetch_answered (h.u ▸ hi)

theorem rate (h : t.Fits s) (hi : i < t.coordinates) : Answered (s.rate i) :=
  Fault.fetch_answered (h.udot ▸ hi)

theorem motion (h : t.Fits s) {b : Handle .body} (hb : b.toNat < t.bodies.length) :
    Answered (s.motion b) :=
  Fault.fetch_answered (h.motions ▸ hb)

theorem slot (h : t.Fits s) (hc : c.toNat < t.sizes.length) : Answered (s.slot c) :=
  Fault.fetch_answered (h.slots ▸ hc)

theorem isEnabled (h : t.Fits s) (hc : c.toNat < t.sizes.length) : Answered (s.isEnabled c) :=
  (h.slot hc).map _

theorem anchor (h : t.Fits s) (hc : c.toNat < t.sizes.length) : Answered (s.anchor c) :=
  (h.slot hc).map _

/-- What is told in place of a constraint is answered once the constraint is there. -/
theorem told (h : t.Fits s) (hc : c.toNat < t.sizes.length) {told ask : Except (Fault α) β}
    (ht : told = (do let _ ← s.isEnabled c; ask)) (ha : Answered ask) : Answered told :=
  ht ▸ (h.isEnabled hc).bind fun _ => ha

theorem whileEnabled (h : t.Fits s) (hc : c.toNat < t.sizes.length)
    {ask : Except (Fault α) β} (ha : Answered ask) : Answered (s.whileEnabled c ask) := by
  refine (h.isEnabled hc).bind fun on => ?_
  cases on with
  | false => exact ⟨none, rfl⟩
  | true => exact ha.map some

theorem multiplierHandle (h : t.Fits s) (hc : c.toNat < t.sizes.length) (which : UInt64) :
    Answered (s.multiplierHandle c which) := by
  have hblock : Answered (s.multiplierBlock c) := by
    unfold State.multiplierBlock
    split
    · exact ⟨none, rfl⟩
    · refine (h.slot hc).bind fun a => ?_
      split <;> exact ⟨_, rfl⟩
  exact hblock.map _

theorem switch (h : t.Fits s) (hc : c.toNat < t.sizes.length) (on : Bool) (n : List (Notice α)) :
    Answered (s.switch c on n).answer := by
  rcases s.switch_cases c on n with ⟨f, hf, -⟩ | ⟨-, hs⟩ | ⟨a, -, -, hs⟩
  · obtain ⟨b, hb⟩ := h.isEnabled hc
    cases hf.symm.trans hb
  · exact ⟨false, by rw [hs]⟩
  · exact ⟨true, by rw [hs]⟩

theorem setAnchor (h : t.Fits s) (hc : c.toNat < t.sizes.length) (p : Option (Vec3 α)) :
    Answered (s.setAnchor c p).answer := by
  obtain ⟨a, ha⟩ := h.slot hc
  exact ⟨(), by rw [State.setAnchor, ha]; rfl⟩

end Topology.Fits

end OneSided
