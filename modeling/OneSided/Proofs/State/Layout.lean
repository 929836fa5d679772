import OneSided.Proofs.State.Ledger

/-! The layout of the multipliers over whole runs. Main statement: in every state that a
run reaches from a new state of an assembly, whatever the assembly and the order of the
operations, no position is valid once a switch has changed; and until one does, the
enabled constraints divide all multipliers among them. -/

namespace OneSided

variable {α : Type}

/-- The multipliers are divided among the enabled constraints. `blocks` are what the
constraints are told, in the order of registration. -/
structure State.Divided (s : State α) (sizes : List Nat) (blocks : List (Option Block)) :
    Prop where
  length : s.multipliers.length = s.numMultipliers
  /-- Enabled constraints have a block and disabled ones have none. -/
  enabled : blocks.map Option.isSome = s.flags
  told : ∀ (i : Nat) (b : Option Block), blocks[i]? = some b →
    s.multiplierBlock (Handle.ofNat i) = .ok b
  size : ∀ (i : Nat) (b : Block), blocks[i]? = some (some b) → sizes[i]? = some b.size
  row : Tiles 0 blocks.reduceOption s.multipliers.length
  disjoint : ∀ (i j : Nat) (a b : Block), i < j → blocks[i]? = some (some a) →
    blocks[j]? = some (some b) → a.stop ≤ b.start
  cover : ∀ k < s.multipliers.length, ∃ b ∈ blocks.reduceOption, b.start ≤ k ∧ k < b.stop

theorem Topology.Addressable.numMultipliers_le {t : Topology} (ht : t.Addressable) {s : State α}
    (hs : s.sizes = t.sizes) : s.numMultipliers ≤ UInt32.size := by
  have h := Slot.total_le_sum s.slots
  rw [show s.slots.map (·.size) = t.sizes from hs] at h
  exact Nat.le_trans h ht

theorem Direction.place_lt (d : Direction) : d.place.toNat < UInt32.size := by
  cases d <;> decide

theorem Direction.place_injective {d d' : Direction} (h : d.place = d'.place) : d = d' := by
  cases d <;> cases d' <;> first | rfl | exact absurd h (by decide)

theorem State.divided {s : State α} (hs : s.stale = false)
    (hlen : s.multipliers.length = s.numMultipliers) (hcount : s.slots.length ≤ UInt32.size) :
    s.Divided s.sizes s.blocks where
  length := hlen
  enabled := s.isSome_blocks
  told i b hb := by
    have hi : i < s.blocks.length := (List.getElem?_eq_some_iff.1 hb).1
    rw [State.blocks, Slot.length_blocksFrom] at hi
    rw [multiplierBlock_of_fresh hs, Handle.toNat_ofNat (by omega)]
    exact hb
  size _ _ hb := size_of_blocks hb
  row := hlen ▸ s.tiles_blocks
  disjoint _ _ _ _ hij ha hb := disjoint_blocks hij ha hb
  cover k hk := s.tiles_blocks.exists_mem (Nat.zero_le k) (hlen ▸ hk)

section Run

variable [Scalar α]

theorem Operation.sizes_runAll_allocate (t : Topology) (ops : List (Operation α)) :
    (runAll ops t.allocate).sizes = t.sizes :=
  (sizes_runAll ops _).trans t.sizes_allocate

omit [Scalar α] in
/-- Each direction of an enabled lock of the assembly has a multiplier in the block of the
lock. -/
theorem Lock.handle_of_block {l : Lock α} {s : State α} {b : Block}
    (hb : s.multiplierBlock l.constraint = .ok (some b)) (hstop : b.stop ≤ UInt32.size)
    {which : UInt64} (hw : which.toNat < b.size) :
    l.multiplierHandle s which = .ok (some (Handle.ofNat (b.start + which.toNat))) := by
  have hsum : b.stop = b.start + b.size := rfl
  change s.multiplierHandle l.constraint which = _
  rw [State.multiplierHandle_of_block hb hstop (by omega), if_pos hw]

/-- The three multipliers of a gripping touch: the tangential ones come first. -/
theorem GrippingTouch.handles_of_block {c : GrippingTouch α} {s : State α} {b : Block}
    (hb : s.multiplierBlock c.lock.constraint = .ok (some b)) (hstop : b.stop ≤ UInt32.size)
    (hsize : b.size = 3) :
    Unilateral.frictionHandles c s =
        .ok (some (Handle.ofNat b.start, Handle.ofNat (b.start + 1))) ∧
      Unilateral.multiplierHandle c s = .ok (some (Handle.ofNat (b.start + 2))) := by
  have hd (d : Direction) : c.multiplierHandle s d =
      .ok (some (Handle.ofNat (b.start + d.place.toNat))) :=
    Lock.handle_of_block (l := .sticking c.lock) hb hstop (by cases d <;> simp [hsize] <;> decide)
  change c.frictionHandles s = _ ∧ c.multiplierHandle s .normal = _
  refine ⟨?_, hd .normal⟩
  simp only [GrippingTouch.frictionHandles, hd, bind, Except.bind]
  rfl

/-- In every state that a run reaches, no position is valid once a switch has changed
since the multipliers were laid out. Until one changes, the enabled constraints divide the
multipliers among them, in blocks of the sizes that were registered. So different
constraints, and different directions of one, never share a multiplier; an enabled lock
has all the multipliers of its block, and of those of a gripping touch the tangential ones
come first. -/
theorem multipliers_divided (steps : List (BuildStep α)) (ops : List (Operation α))
    (hw : (Workshop.build steps).topology.Addressable) :
    let w := Workshop.build steps
    let s := Operation.runAll ops w.topology.allocate
    let ledger := Ledger.blank.after ops w.topology.allocate
    (∀ n ∈ w.topology.sizes, n = 1 ∨ n = 3) ∧
    (.position ≤ s.stage → ledger.switched = false) ∧
    (ledger.switched = false → ∃ blocks, s.Divided w.topology.sizes blocks) ∧
    (∀ c c' (d d' : Direction) m, s.multiplierHandle c d.place = .ok (some m) →
      m.toNat < s.multipliers.length ∧
      (s.multiplierHandle c' d'.place = .ok (some m) → c = c' ∧ d = d')) ∧
    (∀ l ∈ w.locks, ledger.switched = false → s.isEnabled l.constraint = .ok true →
      ∃ b, s.multiplierBlock l.constraint = .ok (some b) ∧ b.size = l.size ∧
        ∀ which : UInt64, which.toNat < l.size →
          l.multiplierHandle s which = .ok (some (Handle.ofNat (b.start + which.toNat)))) ∧
    ∀ c : GrippingTouch α, .sticking c.lock ∈ w.locks → ledger.switched = false →
      s.isEnabled c.lock.constraint = .ok true →
        ∃ b, s.multiplierBlock c.lock.constraint = .ok (some b) ∧
          Unilateral.frictionHandles c s =
            .ok (some (Handle.ofNat b.start, Handle.ofNat (b.start + 1))) ∧
          Unilateral.multiplierHandle c s = .ok (some (Handle.ofNat (b.start + 2))) := by
  intro w s ledger
  have hsound : w.Sound := Workshop.build_sound steps
  have htracks : ledger.Tracks s := (Ledger.Tracks.allocate w.topology).after ops
  have hsizes : s.sizes = w.topology.sizes := Operation.sizes_runAll_allocate _ ops
  have hnum : s.numMultipliers ≤ UInt32.size := hw.numMultipliers_le hsizes
  have hlen (hs : s.stale = false) : s.multipliers.length = s.numMultipliers := by
    rw [htracks.values hs, List.length_map, List.length_range]
  have hblock (l : Lock α) (hl : l ∈ w.locks) (hswitched : ledger.switched = false)
      (he : s.isEnabled l.constraint = .ok true) :
      ∃ b, s.multiplierBlock l.constraint = .ok (some b) ∧ b.size = l.size ∧
        b.stop ≤ UInt32.size := by
    have hn := hsound.size_of_mem hw hl
    rw [← hsizes] at hn
    obtain ⟨b, hb, hsize⟩ := State.exists_block hn he
    exact ⟨b, (State.multiplierBlock_of_fresh (htracks.stale.trans hswitched)).2 hb, hsize,
      Nat.le_trans (State.stop_le_of_blocks hb) hnum⟩
  refine ⟨fun n => hsound.one_or_three, fun h => ?_, fun h => ?_, fun c c' d d' m hm => ?_,
    fun l hl hs he => ?_, fun c hc hs he => ?_⟩
  · rw [← htracks.stale]
    exact htracks.position h
  · have hs : s.stale = false := htracks.stale.trans h
    have hcount : s.slots.length ≤ UInt32.size := by
      have h := Nat.le_trans hsound.length_le_sum hw
      rwa [← hsizes, State.sizes, List.length_map] at h
    exact ⟨s.blocks, hsizes ▸ s.divided hs (hlen hs) hcount⟩
  · have hs := (State.multiplierHandle_eq_some hnum d.place_lt hm).1
    refine ⟨hlen hs ▸ State.multiplierHandle_lt hnum d.place_lt hm, fun hm' => ?_⟩
    obtain ⟨hc, hd⟩ := State.multiplierHandle_injective hnum d.place_lt d'.place_lt hm hm'
    exact ⟨hc, Direction.place_injective hd⟩
  · obtain ⟨b, hb, hsize, hstop⟩ := hblock l hl hs he
    exact ⟨b, hb, hsize, fun which hwhich => Lock.handle_of_block hb hstop (hsize ▸ hwhich)⟩
  · obtain ⟨b, hb, hsize, hstop⟩ := hblock _ hc hs he
    exact ⟨b, hb, GrippingTouch.handles_of_block hb hstop hsize⟩

end Run

/-- A speed lock and a touch with friction, both enabled and laid out. -/
theorem multipliers_divided_of_two :
    let ball : Ball Float := ⟨Handle.ground, ⟨.id, 0⟩, ⟨1⟩, 0, 0⟩
    let touch : GrippingTouch Float := ⟨.point, ⟨⟨1⟩, ball⟩, ⟨1, none⟩, ⟨0, 0, 0, none⟩, none⟩
    let steps : List (BuildStep Float) :=
      [.body 1, .make (.speedLock ⟨⟨1⟩, 0, 1⟩ 0 0), .make (.stickingBall ball)]
    let w := Workshop.build steps
    let ops : List (Operation Float) :=
      [.switch (.lock (.speed ⟨⟨0⟩, 0, 0⟩)) true, .switch (.contact (.gripping touch)) true,
        .realize w.topology .velocity]
    let s := Operation.runAll ops w.topology.allocate
    w.topology.Addressable ∧ .sticking touch.lock ∈ w.locks ∧
      (Ledger.blank.after ops w.topology.allocate).switched = false ∧
      s.isEnabled touch.lock.constraint = .ok true ∧
      (∃ blocks, s.Divided w.topology.sizes blocks) ∧
      ∃ b, s.multiplierBlock touch.lock.constraint = .ok (some b) ∧
        Unilateral.frictionHandles touch s =
          .ok (some (Handle.ofNat b.start, Handle.ofNat (b.start + 1))) ∧
        Unilateral.multiplierHandle touch s = .ok (some (Handle.ofNat (b.start + 2))) := by
  intro ball touch steps w ops s
  have hw : w.topology.Addressable := by
    change 1 + (3 + 0) ≤ UInt32.size
    decide
  have hl : .sticking touch.lock ∈ w.locks := List.mem_cons_of_mem _ List.mem_cons_self
  have hs : (Ledger.blank.after ops w.topology.allocate).switched = false := by decide
  obtain ⟨-, -, hdivided, -, -, htouch⟩ := multipliers_divided steps ops hw
  exact ⟨hw, hl, hs, rfl, hdivided hs, htouch touch hl hs rfl⟩

end OneSided
