import OneSided.Proofs.State.Answer
import OneSided.Proofs.State.Layout

/-! Directions that a lock does not have. The place of a multiplier is summed up in machine words
before it is held against the end of the block. Main statement: in every state that a run
reaches a lock names its own multipliers for its own directions, and nothing for the next ones;
but for those so far beyond them that the sum wraps around it names the multipliers in front of
its block, which belong to other locks. Only the lock whose block comes first never does. -/

namespace OneSided

variable {α : Type}

theorem State.isEnabled_of_blocks {s : State α} {c : Handle .constraint} {b : Block}
    (h : s.blocks[c.toNat]? = some (some b)) : s.isEnabled c = .ok true := by
  rw [isEnabled_eq_ok, ← isSome_blocks, List.getElem?_map, h]
  rfl

section Locks

variable {w : Workshop α} {s : State α} {l : Lock α} {b : Block}

/-- What a lock is told of its block. -/
structure Lock.Told (l : Lock α) (s : State α) (b : Block) : Prop where
  block : s.multiplierBlock l.constraint = .ok (some b)
  size : b.size = l.size
  stop : b.stop ≤ UInt32.size
  fresh : s.stale = false
  enabled : s.isEnabled l.constraint = .ok true

variable (hw : w.Sound) (ha : w.topology.Addressable) (hs : s.sizes = w.topology.sizes)
include hw ha hs

theorem Workshop.Sound.told (hl : l ∈ w.locks) (hst : s.stale = false)
    (hb : s.blocks[l.constraint.toNat]? = some (some b)) : l.Told s b := by
  have hsize := State.size_of_blocks hb
  rw [hs, hw.size_of_mem ha hl, Option.some.injEq] at hsize
  exact ⟨(State.multiplierBlock_of_fresh hst).2 hb, hsize.symm,
    Nat.le_trans (State.stop_le_of_blocks hb) (ha.numMultipliers_le hs), hst,
    State.isEnabled_of_blocks hb⟩

/-- Every multiplier belongs to a lock. -/
theorem Workshop.Sound.exists_told_of_lt (hst : s.stale = false) {n : Nat}
    (hn : n < s.numMultipliers) :
    ∃ l ∈ w.locks, ∃ b, l.Told s b ∧ b.start ≤ n ∧ n < b.stop := by
  obtain ⟨b, hmem, hstart, hstop⟩ := s.tiles_blocks.exists_mem (Nat.zero_le n) hn
  obtain ⟨i, hi⟩ := List.getElem?_of_mem (List.reduceOption_mem_iff.1 hmem)
  have hsize := State.size_of_blocks hi
  rw [hs, hw.sizes, List.getElem?_map, Option.map_eq_some_iff] at hsize
  obtain ⟨l, hl, -⟩ := hsize
  rw [← hw.toNat_constraint ha hl] at hi
  exact ⟨l, List.mem_of_getElem? hl, b, hw.told ha hs (List.mem_of_getElem? hl) hst hi, hstart,
    hstop⟩

omit hw ha hs in
/-- A multiplier is named for a direction of the lock, or for one so far beyond that the sum
wraps around. -/
theorem Lock.Told.handle_iff (h : l.Told s b) {which : UInt64} {m : Handle .multiplier} :
    l.multiplierHandle s which = .ok (some m) ↔
      which.toNat < l.size ∧ m.toNat = b.start + which.toNat ∨
        UInt64.size ≤ b.start + which.toNat ∧ m.toNat + UInt64.size = b.start + which.toNat := by
  rw [← h.size]
  exact State.multiplierHandle_eq_some_of_block h.block h.stop

theorem Workshop.Sound.told_of_handle (hl : l ∈ w.locks) {which : UInt64}
    {m : Handle .multiplier} (h : l.multiplierHandle s which = .ok (some m)) :
    ∃ b, l.Told s b := by
  obtain ⟨hst, b, hb⟩ := State.exists_block_of_handle h
  exact ⟨b, hw.told ha hs hl hst ((State.multiplierBlock_of_fresh hst).1 hb)⟩

/-- What is named for a direction beyond those of the lock belongs to another lock. -/
theorem Workshop.Sound.exists_stranger (h : l.Told s b) {which : UInt64} {m : Handle .multiplier}
    (hm : l.multiplierHandle s which = .ok (some m)) (hwhich : l.size ≤ which.toNat) :
    ∃ k ∈ w.locks, k.constraint ≠ l.constraint ∧ ∃ d : UInt64, d.toNat < k.size ∧
      k.multiplierHandle s d = .ok (some m) := by
  have hwords : UInt64.size = 2 ^ 64 := rfl
  have hword : which.toNat < 2 ^ 64 := which.toNat_lt
  have hsum : b.stop = b.start + b.size := rfl
  -- the multiplier lies in front of the block
  have hlt : m.toNat < b.start := by
    rcases h.handle_iff.1 hm with ⟨hinside, -⟩ | ⟨-, hm⟩ <;> omega
  have hnum : b.stop ≤ s.numMultipliers :=
    State.stop_le_of_blocks ((State.multiplierBlock_of_fresh h.fresh).1 h.block)
  obtain ⟨k, hk, b', hb', hstart, hstop⟩ := hw.exists_told_of_lt ha hs h.fresh
    (n := m.toNat) (by omega)
  refine ⟨k, hk, fun hc => ?_, (m.toNat - b'.start).toUInt64, ?_⟩
  · have hsame := hb'.block
    rw [hc, h.block] at hsame
    cases hsame
    omega
  · have hsum' : b'.stop = b'.start + b'.size := rfl
    have hbounds := hb'.stop
    have hsize : UInt32.size = 4294967296 := rfl
    have hd : (m.toNat - b'.start).toUInt64.toNat = m.toNat - b'.start :=
      UInt64.toNat_ofNat_of_lt' (by omega)
    rw [hb'.handle_iff, hd, ← hb'.size]
    exact ⟨by omega, .inl ⟨by omega, by omega⟩⟩

omit hw ha hs in
/-- A sum can only wrap around behind other blocks. -/
theorem Lock.Told.inside_iff (h : l.Told s b) :
    (∀ which m, l.multiplierHandle s which = .ok (some m) → which.toNat < l.size) ↔
      b.start = 0 := by
  have hwords : UInt64.size = 2 ^ 64 := rfl
  have hsum : b.stop = b.start + b.size := rfl
  constructor
  · intro hinside
    by_contra hstart
    -- the first direction at which the sum wraps around
    have hbounds := h.stop
    have hsize : UInt32.size = 4294967296 := rfl
    have hd : (UInt64.size - b.start).toUInt64.toNat = UInt64.size - b.start :=
      UInt64.toNat_ofNat_of_lt' (by omega)
    have hlt := hinside (UInt64.size - b.start).toUInt64 ⟨0⟩ (h.handle_iff.2 (.inr ?_))
    · have := h.size
      omega
    · rw [hd]
      exact ⟨by omega, by change 0 + _ = _; omega⟩
  · intro hstart which m hm
    have hword : which.toNat < 2 ^ 64 := which.toNat_lt
    rcases h.handle_iff.1 hm with ⟨hinside, -⟩ | ⟨hwraps, -⟩
    · exact hinside
    · omega

end Locks

/-- In every state that a run reaches, a lock answers for every direction, also for the largest
machine words. It names a multiplier exactly if it is enabled, no switch has changed since the
multipliers were laid out, and either the direction is one of its own or the start of its block
and the direction together exceed the machine words; then it names their sum, without what
exceeds. For a direction that is not its own this is a multiplier of another lock. So directions
that are not its own have no multiplier for the lock whose block comes first, and for no other
one. -/
theorem strays_iff [Scalar α] (steps : List (BuildStep α)) (ops : List (Operation α))
    (ha : (Workshop.build steps).topology.Addressable) :
    let w := Workshop.build steps
    let s := Operation.runAll ops w.topology.allocate
    let ledger := Ledger.blank.after ops w.topology.allocate
    ∀ l ∈ w.locks,
      (∀ which, Answered (l.multiplierHandle s which)) ∧
      (∀ which m, l.multiplierHandle s which = .ok (some m) ↔
        s.isEnabled l.constraint = .ok true ∧ ledger.switched = false ∧
          ∃ b, s.multiplierBlock l.constraint = .ok (some b) ∧ b.size = l.size ∧
            (which.toNat < l.size ∧ m.toNat = b.start + which.toNat ∨
              UInt64.size ≤ b.start + which.toNat ∧
                m.toNat + UInt64.size = b.start + which.toNat)) ∧
      (∀ which m, l.multiplierHandle s which = .ok (some m) → l.size ≤ which.toNat →
        ∃ k ∈ w.locks, k.constraint ≠ l.constraint ∧ ∃ d : UInt64, d.toNat < k.size ∧
          k.multiplierHandle s d = .ok (some m)) ∧
      ∀ b, s.multiplierBlock l.constraint = .ok (some b) →
        ((∀ which m, l.multiplierHandle s which = .ok (some m) → which.toNat < l.size) ↔
          b.start = 0) := by
  intro w s ledger l hl
  have hw : w.Sound := Workshop.build_sound steps
  have htracks : ledger.Tracks s := (Ledger.Tracks.allocate w.topology).after ops
  have hs : s.sizes = w.topology.sizes := Operation.sizes_runAll_allocate _ ops
  have hfits : w.topology.Fits s := (Topology.Fits.allocate w.topology).runAll ops
  have hc : l.constraint.toNat < w.topology.sizes.length :=
    (List.getElem?_eq_some_iff.1 (hw.size_of_mem ha hl)).1
  refine ⟨fun which => hfits.multiplierHandle hc which, fun which m => ⟨fun hm => ?_, ?_⟩,
    fun which m hm hwhich => ?_, fun b hb => ?_⟩
  · obtain ⟨b, hb⟩ := hw.told_of_handle ha hs hl hm
    exact ⟨hb.enabled, htracks.stale ▸ hb.fresh, b, hb.block, hb.size, hb.handle_iff.1 hm⟩
  · rintro ⟨-, hswitched, b, hb, -, hm⟩
    have hst : s.stale = false := htracks.stale.trans hswitched
    exact (hw.told ha hs hl hst ((State.multiplierBlock_of_fresh hst).1 hb)).handle_iff.2 hm
  · obtain ⟨b, hb⟩ := hw.told_of_handle ha hs hl hm
    exact hw.exists_stranger ha hs hb hm hwhich
  · have hst : s.stale = false := by
      refine Bool.eq_false_iff.2 fun hst => ?_
      rw [State.multiplierBlock_of_stale hst] at hb
      cases hb
    exact (hw.told ha hs hl hst ((State.multiplierBlock_of_fresh hst).1 hb)).inside_iff

/-! ### Two speed locks -/

namespace Workshop

/-- A body with two coordinates and a speed lock on each. -/
def twoLocks : List (BuildStep Float) :=
  [.body 2, .make (.speedLock ⟨⟨1⟩, 0, 2⟩ 0 0), .make (.speedLock ⟨⟨1⟩, 0, 2⟩ 1 0)]

def firstOfTwo : Lock Float := .speed ⟨⟨0⟩, 0, 0⟩

def secondOfTwo : Lock Float := .speed ⟨⟨1⟩, 1, 0⟩

/-- Both locks are switched on and given their multipliers. -/
def twoLocksOn : List (Operation Float) :=
  [.switch (.lock firstOfTwo) true, .switch (.lock secondOfTwo) true,
    .realize (build twoLocks).topology .position]

theorem block_twoLocksOn {c : Handle .constraint} {b : Block}
    (hb : [some ⟨0, 1⟩, some ⟨1, 1⟩][c.toNat]? = some (some b)) :
    (Operation.runAll twoLocksOn (build twoLocks).topology.allocate).multiplierBlock c =
      .ok (some b) := by
  have hblocks : (Operation.runAll twoLocksOn (build twoLocks).topology.allocate).blocks =
      [some ⟨0, 1⟩, some ⟨1, 1⟩] := by decide
  exact (State.multiplierBlock_of_fresh rfl).2 (hblocks ▸ hb)

end Workshop

/-- For the largest machine word the second lock names the multiplier of the first one. -/
theorem strays_iff_of_two :
    let w := Workshop.build Workshop.twoLocks
    let s := Operation.runAll Workshop.twoLocksOn w.topology.allocate
    w.topology.Addressable ∧ Workshop.firstOfTwo ∈ w.locks ∧ Workshop.secondOfTwo ∈ w.locks ∧
      Workshop.secondOfTwo.multiplierHandle s 18446744073709551615 = .ok (some ⟨0⟩) ∧
      (∃ k ∈ w.locks, k.constraint ≠ Workshop.secondOfTwo.constraint ∧
        ∃ d : UInt64, d.toNat < k.size ∧ k.multiplierHandle s d = .ok (some ⟨0⟩)) ∧
      ∀ which m, Workshop.firstOfTwo.multiplierHandle s which = .ok (some m) →
        which.toNat < Workshop.firstOfTwo.size := by
  intro w s
  have ha : w.topology.Addressable := by
    change 1 + (1 + 0) ≤ UInt32.size
    decide
  have hfirst : Workshop.firstOfTwo ∈ w.locks := List.mem_cons_self
  have hsecond : Workshop.secondOfTwo ∈ w.locks := List.mem_cons_of_mem _ List.mem_cons_self
  have hblock₀ : s.multiplierBlock ⟨0⟩ = .ok (some ⟨0, 1⟩) := Workshop.block_twoLocksOn rfl
  have hblock₁ : s.multiplierBlock ⟨1⟩ = .ok (some ⟨1, 1⟩) := Workshop.block_twoLocksOn rfl
  obtain ⟨-, hnames, hstranger, -⟩ :=
    strays_iff Workshop.twoLocks Workshop.twoLocksOn ha _ hsecond
  obtain ⟨-, -, -, hinside⟩ := strays_iff Workshop.twoLocks Workshop.twoLocksOn ha _ hfirst
  have hname : Workshop.secondOfTwo.multiplierHandle s 18446744073709551615 = .ok (some ⟨0⟩) :=
    (hnames _ _).2 ⟨rfl, rfl, ⟨1, 1⟩, hblock₁, rfl, .inr ⟨by decide, by decide⟩⟩
  exact ⟨ha, hfirst, hsecond, hname, hstranger _ _ hname (by decide),
    (hinside ⟨0, 1⟩ hblock₀).2 rfl⟩

/-- A lock names a multiplier for a direction that it does not have, and it is that of another
lock. -/
theorem stray_named :
    let s := Operation.runAll Workshop.twoLocksOn
      (Workshop.build Workshop.twoLocks).topology.allocate
    let which : UInt64 := 18446744073709551615
    ¬which.toNat < Workshop.secondOfTwo.size ∧
      Workshop.secondOfTwo.multiplierHandle s which = .ok (some ⟨0⟩) ∧
      Workshop.firstOfTwo.multiplierHandle s 0 = .ok (some ⟨0⟩) := by
  intro s which
  have hblock₀ : s.multiplierBlock ⟨0⟩ = .ok (some ⟨0, 1⟩) := Workshop.block_twoLocksOn rfl
  have hblock₁ : s.multiplierBlock ⟨1⟩ = .ok (some ⟨1, 1⟩) := Workshop.block_twoLocksOn rfl
  refine ⟨by decide, ?_, ?_⟩
  · exact (State.multiplierHandle_eq_some_of_block hblock₁ (by decide)).2
      (.inr ⟨by decide, by decide⟩)
  · exact (State.multiplierHandle_eq_some_of_block hblock₀ (by decide)).2
      (.inl ⟨by decide, by decide⟩)

end OneSided
