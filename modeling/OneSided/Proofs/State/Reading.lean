import OneSided.Proofs.State.Layout

/-! What one-sided elements read from the multipliers over whole runs. Main statement: a
force that an element tells was written for it, to its own multiplier and since the
multipliers were last laid out; after a switch has changed no element tells a force until
the positions are realized, right after which all forces are zero; and as long as no
switch changes, a force only changes when it is written. -/

namespace OneSided

variable {α : Type}

/-! ### The force of an element -/

/-- How a one-sided element tells its force. A bare lock tells none. -/
def Element.force? [Scalar α] : Element α → Option (State α → Except (Fault α) (Option α))
  | contact c => some (Unilateral.multiplier c)
  | friction f => some (LimitedFriction.force f)
  | drive d => some (BoundedDrive.reaction d)
  | lock _ => none

/-- The force of a drive acts against its multiplier. -/
def Element.signed [Neg α] : Element α → α → α
  | drive _, x => -x
  | _, x => x

/-- The last direction of a lock is the one that its force is told of. -/
def Lock.last : Lock α → UInt64
  | sticking _ => Direction.normal.place
  | _ => 0

theorem Lock.toNat_last (l : Lock α) : l.last.toNat = l.size - 1 := by
  cases l <;> rfl

theorem Lock.last_lt (l : Lock α) : l.last.toNat < UInt32.size := by
  cases l with
  | sticking l => exact Direction.normal.place_lt
  | _ => exact Nat.succ_pos _

theorem Lock.size_bounds (l : Lock α) : 0 < l.size ∧ l.size ≤ 3 := by
  cases l <;> simp [size]

section Force

variable [Scalar α] {e : Element α} {read : State α → Except (Fault α) (Option α)} {l : Lock α}

theorem Element.force_eq (he : e.force? = some read) (hl : e.lock? = some l) (s : State α) :
    read s = (s.multiplierHandle l.constraint l.last).map fun m =>
      (m.bind s.multiplier?).map e.signed := by
  have hmap (x : Except (Fault α) (Option (Handle .multiplier))) (f : α → α) :
      (x >>= fun m => pure ((m.bind s.multiplier?).map f)) =
        x.map fun m => (m.bind s.multiplier?).map f := by
    cases x <;> rfl
  have hplain (x : Except (Fault α) (Option (Handle .multiplier))) :
      (x >>= fun m => pure (m.bind s.multiplier?)) =
        x.map fun m => (m.bind s.multiplier?).map fun y => y := by
    simpa using hmap x fun y => y
  rcases e with c | f | d | k
  · cases he
    cases c <;> cases hl <;> exact hplain _
  · cases he
    cases f <;> cases hl
    exact hplain _
  · cases he
    cases d <;> cases hl
    exact hmap _ _
  · cases he

variable {s : State α} {ledger : Ledger α}

theorem Element.force_of_none (he : e.force? = some read) (hl : e.lock? = some l)
    (h : s.multiplierBlock l.constraint = .ok none) : read s = .ok none := by
  rw [force_eq he hl, State.multiplierHandle_of_none h]
  rfl

theorem Ledger.Tracks.getElem?_multipliers (ht : ledger.Tracks s) (hs : s.stale = false) {i : Nat}
    (hi : i < s.numMultipliers) : s.multipliers[i]? = some (ledger.value i) := by
  rw [ht.values hs]
  simp [hi]

theorem Element.force_of_block (he : e.force? = some read) (hl : e.lock? = some l)
    (ht : ledger.Tracks s) (hs : s.numMultipliers ≤ UInt32.size) (hswitch : ledger.switched = false)
    {b : Block} (hb : s.blocks[l.constraint.toNat]? = some (some b)) (hsize : l.size ≤ b.size) :
    read s = .ok (some (e.signed (ledger.value (b.start + (l.size - 1))))) := by
  have hstale : s.stale = false := ht.stale.trans hswitch
  have hpos := l.size_bounds.1
  have hstop := State.stop_le_of_blocks hb
  have hsum : b.stop = b.start + b.size := rfl
  have hlast : l.last.toNat < b.size := by
    rw [l.toNat_last]
    omega
  have hm : s.multiplierHandle l.constraint l.last =
      .ok (some (Handle.ofNat (b.start + l.last.toNat))) :=
    Lock.handle_of_block ((State.multiplierBlock_of_fresh hstale).2 hb) (by omega) hlast
  have hread : s.multiplier? (Handle.ofNat (b.start + l.last.toNat)) =
      some (ledger.value (b.start + l.last.toNat)) := by
    rw [State.multiplier?, Handle.toNat_ofNat (by omega)]
    exact ht.getElem?_multipliers hstale (by omega)
  rw [force_eq he hl, hm, ← l.toNat_last]
  simp only [Except.map, Option.bind_some, hread, Option.map_some]

/-- A force that is told is what the ledger has for the element's own multiplier. -/
theorem Element.force_eq_some (he : e.force? = some read) (hl : e.lock? = some l)
    (ht : ledger.Tracks s) (hs : s.numMultipliers ≤ UInt32.size) {v : α}
    (h : read s = .ok (some v)) :
    ledger.switched = false ∧ ∃ b, s.blocks[l.constraint.toNat]? = some (some b) ∧
      l.size ≤ b.size ∧ v = e.signed (ledger.value (b.start + (l.size - 1))) := by
  have hform := force_eq he hl s
  rw [h] at hform
  cases hm : s.multiplierHandle l.constraint l.last with
  | error => simp [hm, Except.map] at hform
  | ok o =>
    cases o with
    | none => simp [hm, Except.map] at hform
    | some m =>
      have hbounds := l.size_bounds
      obtain ⟨hstale, b, hb, hlt, -⟩ := State.multiplierHandle_eq_some hs l.last_lt hm
      have hswitch : ledger.switched = false := ht.stale.symm.trans hstale
      have hsize : l.size ≤ b.size := by
        rw [l.toNat_last] at hlt
        omega
      have hread := force_of_block he hl ht hs hswitch hb hsize
      rw [h] at hread
      cases hread
      exact ⟨hswitch, b, hb, hsize, rfl⟩

/-- After a switch has changed no element tells a force until the positions are realized. -/
theorem Element.force_of_switched (he : e.force? = some read) (hl : e.lock? = some l)
    (ht : ledger.Tracks s) (hs : ledger.switched = true) : read s = .ok none :=
  force_of_none he hl (State.multiplierBlock_of_stale (ht.stale.trans hs))

/-- Right after a realization that has found a changed switch the forces are zero. -/
theorem Element.force_of_realize (he : e.force? = some read) (hl : e.lock? = some l)
    (ht : ledger.Tracks s) (hs : s.numMultipliers ≤ UInt32.size) (hswitch : ledger.switched = true)
    {t : Topology} (hm : t.matchesState s = true) {stage : Stage} (hp : .position ≤ stage)
    (hn : s.sizes[l.constraint.toNat]? = some l.size)
    (hen : (t.realize s stage).state.isEnabled l.constraint = .ok true) :
    read (t.realize s stage).state = .ok (some (e.signed 0)) := by
  have heff := Effect.realize t s stage
  obtain ⟨ht', hflags⟩ := ht.realize hswitch hm hp
  rw [← heff.sizes] at hn
  rw [← State.numMultipliers_congr hflags heff.sizes] at hs
  obtain ⟨b, hb, hsize⟩ := State.exists_block hn hen
  exact force_of_block he hl ht' hs rfl hb (Nat.le_of_eq hsize.symm)

/-- As long as no switch changes, a force only changes when it is written. -/
theorem Element.force_of_steady (he : e.force? = some read) (hl : e.lock? = some l)
    (ht : ledger.Tracks s) (hs : s.numMultipliers ≤ UInt32.size) {ops : List (Operation α)}
    (hsteady : Operation.Steady ops s) {v : α} (h : read s = .ok (some v)) {b : Block}
    (hb : s.multiplierBlock l.constraint = .ok (some b))
    (hw : ∀ x, .setMultiplier (b.start + (l.size - 1)) x ∉ ops) :
    read (Operation.runAll ops s) = .ok (some v) := by
  obtain ⟨hswitch, b', hb', hsize, rfl⟩ := force_eq_some he hl ht hs h
  rw [State.multiplierBlock_of_fresh (ht.stale.trans hswitch), hb'] at hb
  cases hb
  have hblocks := State.blocks_congr hsteady.flags (Operation.sizes_runAll ops s)
  rw [← State.numMultipliers_congr hsteady.flags (Operation.sizes_runAll ops s)] at hs
  obtain ⟨hswitch', hvalue⟩ := Ledger.after_steady hswitch hsteady
  rw [← hvalue _ hw]
  exact force_of_block he hl (ht.after ops) hs hswitch' (hblocks ▸ hb') hsize

/-- What is told of forces over any run from a new state of an assembly. A force that an
element tells is what was last written to the element's own multiplier since the
multipliers were laid out, or zero, and no switch has changed since then. After a switch
has changed no force is told until the positions are realized. That realization is
accepted, and after it the forces of the enabled elements of the assembly are zero. As
long as no switch changes, a force only changes when it is written. -/
theorem forces_told (steps : List (BuildStep α)) (ops : List (Operation α))
    (hw : (Workshop.build steps).topology.Addressable) :
    let w := Workshop.build steps
    let s := Operation.runAll ops w.topology.allocate
    let ledger := Ledger.blank.after ops w.topology.allocate
    ∀ (e : Element α) (read : State α → Except (Fault α) (Option α)) (l : Lock α),
      e.force? = some read → e.lock? = some l →
      (∀ v, read s = .ok (some v) → ledger.switched = false ∧
        ∃ b, s.multiplierBlock l.constraint = .ok (some b) ∧ l.size ≤ b.size ∧
          v = e.signed (ledger.value (b.start + (l.size - 1)))) ∧
      (ledger.switched = true → read s = .ok none) ∧
      (∀ (op : Operation α) more, (op.run s).state.flags ≠ s.flags →
        (∀ t stage, .realize t stage ∈ more → ¬Stage.position ≤ stage) →
        read (Operation.runAll more (op.run s).state) = .ok none) ∧
      (∀ stage, .position ≤ stage → ledger.switched = true →
        (w.topology.realize s stage).answer = .ok () ∧
        (l ∈ w.locks → (w.topology.realize s stage).state.isEnabled l.constraint = .ok true →
          read (w.topology.realize s stage).state = .ok (some (e.signed 0)))) ∧
      ∀ more v b, Operation.Steady more s → read s = .ok (some v) →
        s.multiplierBlock l.constraint = .ok (some b) →
        (∀ x, .setMultiplier (b.start + (l.size - 1)) x ∉ more) →
        read (Operation.runAll more s) = .ok (some v) := by
  intro w s ledger e read l he hl
  have hsound : w.Sound := Workshop.build_sound steps
  have ht : ledger.Tracks s := (Ledger.Tracks.allocate w.topology).after ops
  have hsizes : s.sizes = w.topology.sizes := Operation.sizes_runAll_allocate _ ops
  have hs : s.numMultipliers ≤ UInt32.size := hw.numMultipliers_le hsizes
  have hmatch : w.topology.matchesState s = true :=
    (Operation.matchesState_runAll _ ops _).trans w.topology.matchesState_allocate
  refine ⟨fun v hv => ?_, fun h => Element.force_of_switched he hl ht h,
    fun op more hf hmore => ?_, fun stage hp hswitch => ⟨?_, fun hmem hen => ?_⟩,
    fun more v b hsteady hv hb hx => Element.force_of_steady he hl ht hs hsteady hv hb hx⟩
  · obtain ⟨hswitch, b, hb, hsize, rfl⟩ := Element.force_eq_some he hl ht hs hv
    exact ⟨hswitch, b, (State.multiplierBlock_of_fresh (ht.stale.trans hswitch)).2 hb, hsize, rfl⟩
  · have hop : (ledger.enter op s).switched = true := by
      rcases (op.effect s).flags with hsame | ⟨-, -, -, hpass⟩
      · exact absurd hsame hf
      · exact Ledger.enter_flip hf hpass
    exact Element.force_of_switched he hl ((ht.enter op).after more)
      (Ledger.switched_after hop hmore)
  · simp [Topology.realize, hmatch]
  · have hn := hsound.size_of_mem hw hmem
    rw [← hsizes] at hn
    exact Element.force_of_realize he hl ht hs hswitch hmatch hp hn hen

end Force

/-- A motor that is switched on and realized, and then realized once more. -/
theorem forces_told_of_motor :
    let body : Mobilizer := ⟨⟨1⟩, 0, 1⟩
    let motor : Drive Float := .motor ⟨body, 0, 2, none, ⟨⟨0⟩, 0, 3⟩, none⟩
    let steps : List (BuildStep Float) := [.body 1, .make (.motor body 0 3 2)]
    let w := Workshop.build steps
    let s := Operation.runAll [.switch (.drive motor) true] w.topology.allocate
    let laid := (w.topology.realize s .velocity).state
    let more : List (Operation Float) := [.invalidate .position, .realize w.topology .velocity]
    w.topology.Addressable ∧ BoundedDrive.reaction motor s = .ok none ∧
      (w.topology.realize s .velocity).answer = .ok () ∧
      BoundedDrive.reaction motor laid = .ok (some (-0)) ∧ Operation.Steady more laid ∧
      BoundedDrive.reaction motor (Operation.runAll more laid) = .ok (some (-0)) := by
  intro body motor steps w s laid more
  have hw : w.topology.Addressable := by
    change 1 + 0 ≤ UInt32.size
    decide
  have hp : Stage.position ≤ Stage.velocity := by decide
  obtain ⟨-, hnone, -, hzero, -⟩ := forces_told steps
    [.switch (.drive motor) true] hw (.drive motor) _ _ rfl rfl
  obtain ⟨hok, hread⟩ := hzero .velocity hp rfl
  have hlaid : BoundedDrive.reaction motor laid = .ok (some (-0)) :=
    hread List.mem_cons_self rfl
  obtain ⟨-, -, -, -, hkeep⟩ := forces_told steps
    [.switch (.drive motor) true, .realize w.topology .velocity] hw (.drive motor) _ _ rfl rfl
  have hsteady : Operation.Steady more laid := ⟨by decide, by decide, trivial⟩
  have hkept := hkeep more (-0) ⟨0, 1⟩ hsteady hlaid rfl (by simp [more])
  exact ⟨hw, hnone rfl, hok, hlaid, hsteady, hkept⟩

end OneSided
