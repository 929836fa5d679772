import OneSided.Proofs.Assembly.Growth
import OneSided.Proofs.State.Switching

/-! Constructors are atomic. Main statement: a constructor succeeds exactly on admissible
arguments; then it has registered one constraint, disabled at first, that no other element
has anything in common with, and otherwise the assembly is as it was. -/

namespace OneSided

variable {α : Type}

/-! ### Constraints that have nothing in common -/

/-- What is done to the first constraint leaves the slot of the second one alone, and no
multiplier belongs to both. -/
structure State.Apart (s : State α) (c c' : Handle .constraint) : Prop where
  switch : ∀ on n, (s.switch c on n).state.slot c' = s.slot c'
  anchor : ∀ p, (s.setAnchor c p).state.slot c' = s.slot c'
  multiplier : ∀ (d d' : Direction) (m : Handle .multiplier),
    s.multiplierHandle c d.place = .ok (some m) → s.multiplierHandle c' d'.place ≠ .ok (some m)

theorem State.apart_of_ne {s : State α} {c c' : Handle .constraint}
    (hs : s.numMultipliers ≤ UInt32.size) (hc : c ≠ c') : s.Apart c c' where
  switch on n := slot_switch_of_ne hc s on n
  anchor p := by
    unfold setAnchor
    split
    · rfl
    · exact slot_set_of_ne rfl hc
  multiplier d d' m hm hm' := hc (multiplierHandle_injective hs d.place_lt d'.place_lt hm hm').1

variable [Scalar α]

/-! ### Elements and their locks -/

namespace Workshop

variable {steps : List (BuildStep α)} {e : Element α}

theorem exists_lock_of_mem (he : e ∈ (build steps).made) : ∃ l, e.lock? = some l := by
  obtain ⟨p, t, t', hp⟩ := exists_make_of_mem he
  obtain ⟨l, hl, -⟩ := Part.make_eq_ok hp
  exact ⟨l, hl⟩

/-- Every element has a lock, so elements and locks are in the same order. -/
theorem getElem?_locks {i : Nat} (he : (build steps).made[i]? = some e) :
    ∃ l, e.lock? = some l ∧ (build steps).locks[i]? = some l := by
  have hmap : (build steps).locks.map some = (build steps).made.map Element.lock? := by
    rw [locks, List.map_filterMap_some_eq_filter_map_isSome, List.filter_eq_self]
    intro o ho
    obtain ⟨e, he, rfl⟩ := List.mem_map.1 ho
    obtain ⟨l, hl⟩ := exists_lock_of_mem he
    rw [hl]
    rfl
  obtain ⟨l, hl⟩ := exists_lock_of_mem (List.mem_of_getElem? he)
  have hi := congrArg (·[i]?) hmap
  simp only [List.getElem?_map, he, Option.map_some, hl] at hi
  obtain ⟨k, hk, hkl⟩ := Option.map_eq_some_iff.1 hi
  cases hkl
  exact ⟨l, hl, hk⟩

/-- Different elements have different constraints. -/
theorem constraint_ne (hs : (build steps).topology.Addressable) {i j : Nat} {l l' : Lock α}
    (hij : i ≠ j) (hl : (build steps).locks[i]? = some l)
    (hl' : (build steps).locks[j]? = some l') : l.constraint ≠ l'.constraint := by
  have hsound := build_sound steps
  intro h
  have hn := hsound.toNat_constraint hs hl
  rw [h, hsound.toNat_constraint hs hl'] at hn
  exact hij hn.symm

/-- A constructor leaves behind what it has done to the topology, whether it fails or not. -/
theorem step_make (w : Workshop α) (p : Part α) :
    w.step (.make p) = ⟨{ w.assembly with topology := (p.construct.on w.topology).2 },
      w.made ++ (p.construct.on w.topology).1.toOption.toList⟩ := by
  rcases p.make_cases w.topology with ⟨-, e, -, hon, he⟩ | ⟨-, r, hon, hr⟩
  · simp only [step, he, hon]
    rfl
  · simp only [step, hr, hon]
    simp [topology, Except.toOption]

end Workshop

/-- All constraints are disabled at first, and so is every element that was made before. -/
theorem Element.isEnabled_allocate {steps : List (BuildStep α)} {e : Element α}
    (he : e ∈ (Workshop.build steps).made) (more : List (BuildStep α)) :
    e.isEnabled (Workshop.build (steps ++ more)).topology.allocate = .ok false := by
  obtain ⟨i, hi⟩ := List.getElem?_of_mem he
  obtain ⟨l, hl, hlocks⟩ := Workshop.getElem?_locks hi
  have hsound := Workshop.build_sound steps
  have hlt : l.constraint.toNat < (Workshop.build steps).topology.sizes.length := by
    rw [hsound.constraint_of_getElem? hlocks, hsound.sizes, List.length_map]
    exact Nat.lt_of_le_of_lt (Handle.toNat_ofNat_le i) (List.getElem?_eq_some_iff.1 hlocks).1
  have hle := ((Workshop.build steps).growsTo_after more).sizes.length_le
  rw [← Workshop.build_append] at hle
  rw [e.isEnabled_of_lock hl]
  exact Topology.isEnabled_allocate (List.getElem?_eq_getElem (Nat.lt_of_lt_of_le hlt hle))

/-- Zero is a radius wherever it is finite and not below itself, as among machine numbers. -/
theorem Ball.valid_zero_iff (hf : Scalar.isFinite (0 : α)) (h : (0 : α) ≤ 0) {height : α} :
    Valid height 0 ↔ Scalar.isFinite height :=
  ⟨fun hv => hv.1, fun hh => ⟨hh, hf, h⟩⟩

/-- A call of a constructor succeeds exactly on admissible arguments. If it fails, the
topology is as before. If it succeeds, one constraint of the element's own size has been
registered behind all others, and the element is around that constraint. However elements
are made, each of them is disabled in every state that is allocated later, and no two of
them have a flag, an anchor or a multiplier in common. -/
theorem constructors_atomic :
    (∀ (p : Part α) (t : Topology),
      ((∃ e, (p.construct.on t).1 = .ok e) ↔ p.Admissible) ∧
      (∀ r, (p.construct.on t).1 = .error r → (p.construct.on t).2 = t) ∧
      ∀ e, (p.construct.on t).1 = .ok e →
        (p.construct.on t).2 = { t with sizes := t.sizes ++ [p.size] } ∧
        ∃ l, e.lock? = some l ∧ l.constraint = Handle.ofNat t.sizes.length ∧ l.size = p.size) ∧
    ∀ steps : List (BuildStep α),
      let w := Workshop.build steps
      (∀ p : Part α, w.step (.make p) =
        ⟨{ w.assembly with topology := (p.construct.on w.topology).2 },
          w.made ++ (p.construct.on w.topology).1.toOption.toList⟩) ∧
      (∀ e ∈ w.made, ∀ more,
        e.isEnabled (Workshop.build (steps ++ more)).topology.allocate = .ok false) ∧
      (w.topology.Addressable → ∀ (i j : Nat) (e e' : Element α), i ≠ j →
        w.made[i]? = some e → w.made[j]? = some e' →
        ∃ l l', e.lock? = some l ∧ e'.lock? = some l' ∧ ∀ ops : List (Operation α),
          (Operation.runAll ops w.topology.allocate).Apart l.constraint l'.constraint) := by
  refine ⟨fun p t => ?_, fun steps => ⟨Workshop.step_make _, fun e he more =>
    Element.isEnabled_allocate he more, fun hs i j e e' hij he he' => ?_⟩⟩
  · rcases p.make_cases t with ⟨hp, e, hy, hon, -⟩ | ⟨hp, r, hon, -⟩ <;> rw [hon]
    · refine ⟨iff_of_true ⟨e, rfl⟩ hp, nofun, fun e' he' => ?_⟩
      cases he'
      exact ⟨rfl, hy.lock⟩
    · exact ⟨iff_of_false nofun hp, fun _ _ => rfl, nofun⟩
  · obtain ⟨l, hl, hlocks⟩ := Workshop.getElem?_locks he
    obtain ⟨l', hl', hlocks'⟩ := Workshop.getElem?_locks he'
    refine ⟨l, l', hl, hl', fun ops => State.apart_of_ne ?_ ?_⟩
    · exact hs.numMultipliers_le (Operation.sizes_runAll_allocate _ ops)
    · exact Workshop.constraint_ne hs hij hlocks hlocks'

/-- A lock and a point on a plane, with a motor in between that has no target. -/
theorem constructors_atomic_of_point :
    let body : Mobilizer := ⟨⟨1⟩, 0, 1⟩
    let motor : Part Float := .motor body 0 (0 / 0) 2
    let point : Part Float := .grippingPoint ⟨Handle.ground, 0, 0⟩ ⟨0, 0, 1⟩ (-1) body 0 ⟨1, none⟩
      ⟨0, 0, 0, none⟩
    let steps : List (BuildStep Float) :=
      [.body 1, .make (.speedLock body 0 0), .make motor, .make point]
    let w := Workshop.build steps
    (¬motor.Admissible ∧ ∃ r, (motor.construct.on w.topology).1 = .error r ∧
      (motor.construct.on w.topology).2 = w.topology) ∧
    (point.Admissible ∧ ∃ e, (point.construct.on w.topology).1 = .ok e ∧
      (point.construct.on w.topology).2.sizes = [1, 3, 3]) ∧
    w.topology.Addressable ∧ ∃ e e', w.made[0]? = some e ∧ w.made[1]? = some e' ∧
      e'.isEnabled (Workshop.build (steps ++ [.body 2])).topology.allocate = .ok false ∧
      ∃ l l', e.lock? = some l ∧ e'.lock? = some l' ∧
        (w.topology.allocate : State Float).Apart l.constraint l'.constraint := by
  intro body motor point steps w
  obtain ⟨hcalls, hsteps⟩ := constructors_atomic (α := Float)
  obtain ⟨hmotor, hfail, -⟩ := hcalls motor w.topology
  obtain ⟨hpoint, -, hok⟩ := hcalls point w.topology
  obtain ⟨-, hoff, hapart⟩ := hsteps steps
  have hno : ¬motor.Admissible := fun h => absurd h.2.1 (by decide)
  have hyes : point.Admissible := (Ball.valid_zero_iff (by decide) (by decide)).2 (by decide)
  have hs : w.topology.Addressable := by
    change 1 + (3 + 0) ≤ UInt32.size
    decide
  obtain ⟨e, he⟩ := hpoint.2 hyes
  refine ⟨⟨hno, _, rfl, hfail _ rfl⟩, ⟨hyes, e, he, ?_⟩, hs, _, _, rfl, rfl, ?_, ?_⟩
  · rw [(hok e he).1]
    rfl
  · exact hoff _ (List.mem_cons_of_mem _ List.mem_cons_self) [.body 2]
  · obtain ⟨l, l', hl, hl', h⟩ := hapart hs 0 1 _ _ (by decide) rfl rfl
    exact ⟨l, l', hl, hl', h []⟩

end OneSided
