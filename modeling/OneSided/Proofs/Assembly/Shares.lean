import OneSided.Proofs.Assembly.Growth
import OneSided.Proofs.State.Block

/-! How the bodies of an assembly share the coordinate arrays. Each body takes the entries
behind those of the body before, so the shares follow one another without gap, and no entry
belongs to two coordinates. -/

namespace OneSided

variable {α : Type}

/-- The entries that belong to a body. -/
def Mobilizer.share (m : Mobilizer) : Block := ⟨m.first, m.count⟩

theorem Mobilizer.bounds_of_place {m : Mobilizer} {which k : Nat}
    (h : (m.place which : Except (Rejection α) Nat) = .ok k) :
    k = m.share.start + which ∧ k < m.share.stop := by
  obtain ⟨hw, rfl⟩ := place_eq_ok.1 h
  exact ⟨rfl, Nat.add_lt_add_left hw _⟩

/-- The topology has the motion and the entries of a body. -/
structure Mobilizer.Within (m : Mobilizer) (t : Topology) : Prop where
  handle : m.handle.toNat < t.bodies.length
  share : m.share.stop ≤ t.coordinates

theorem Mobilizer.Within.place_lt {m : Mobilizer} {t : Topology} {which k : Nat} (h : m.Within t)
    (hk : (m.place which : Except (Rejection α) Nat) = .ok k) : k < t.coordinates :=
  Nat.lt_of_lt_of_le (bounds_of_place hk).2 h.share

theorem Mobilizer.Within.mono {m : Mobilizer} {t t' : Topology} (h : m.Within t)
    (ht : t.GrowsTo t') : m.Within t' :=
  ⟨Nat.lt_of_lt_of_le h.handle ht.bodies.length_le, Nat.le_trans h.share ht.coordinates⟩

namespace Topology

/-- The bodies stand in the order of their handles, and their shares follow one another
from the first entry to the last one. -/
structure Laid (t : Topology) : Prop where
  handles : t.bodies.map (·.handle) = (List.range t.bodies.length).map Handle.ofNat
  shares : Tiles 0 (t.bodies.map Mobilizer.share) t.coordinates

namespace Laid

variable {t : Topology}

theorem empty : Topology.empty.Laid := ⟨rfl, rfl, rfl⟩

theorem addBody (ht : t.Laid) (count : Nat) : (t.addBody count).2.Laid where
  handles := by simp [Topology.addBody, List.range_succ, ht.handles]
  shares := by
    rw [Topology.addBody, List.map_append]
    exact ht.shares.append ⟨rfl, rfl⟩

theorem addConstraint (ht : t.Laid) (size : Nat) : (t.addConstraint size).2.Laid :=
  ⟨ht.handles, ht.shares⟩

/-- The handle of a body is in range, and its share is among the entries. -/
theorem within (ht : t.Laid) {m : Mobilizer} (hm : m ∈ t.bodies) : m.Within t where
  handle := by
    have h : m.handle ∈ t.bodies.map (·.handle) := List.mem_map_of_mem hm
    rw [ht.handles, List.mem_map] at h
    obtain ⟨i, hi, h⟩ := h
    rw [← h]
    exact Nat.lt_of_le_of_lt (Handle.toNat_ofNat_le i) (List.mem_range.1 hi)
  share := (ht.shares.bounds.2 _ (List.mem_map_of_mem hm)).2

/-- The share of a body ends before that of a later one begins. -/
theorem share_le_share (ht : t.Laid) {i j : Nat} {m m' : Mobilizer} (hij : i < j)
    (hm : t.bodies[i]? = some m) (hm' : t.bodies[j]? = some m') :
    m.share.stop ≤ m'.share.start := by
  have h := ht.shares.pairwise
  rw [List.pairwise_map, List.pairwise_iff_getElem] at h
  obtain ⟨hi, rfl⟩ := List.getElem?_eq_some_iff.1 hm
  obtain ⟨hj, rfl⟩ := List.getElem?_eq_some_iff.1 hm'
  exact h i j hi hj hij

theorem place_injective (ht : t.Laid) {i j : Nat} {m m' : Mobilizer} {which which' k : Nat}
    (hm : t.bodies[i]? = some m) (hm' : t.bodies[j]? = some m')
    (hk : (m.place which : Except (Rejection α) Nat) = .ok k)
    (hk' : (m'.place which' : Except (Rejection α) Nat) = .ok k) : i = j ∧ which = which' := by
  obtain ⟨hfrom, hto⟩ := Mobilizer.bounds_of_place hk
  obtain ⟨hfrom', hto'⟩ := Mobilizer.bounds_of_place hk'
  rcases Nat.lt_trichotomy i j with hij | rfl | hij
  · have := ht.share_le_share hij hm hm'
    omega
  · rw [hm] at hm'
    cases hm'
    exact ⟨rfl, by omega⟩
  · have := ht.share_le_share hij hm' hm
    omega

end Laid

end Topology

/-! ### Every assembly -/

/-- How many coordinates a step adds with a body. -/
def BuildStep.count? : BuildStep α → Option Nat
  | body count => some count
  | _ => none

namespace Workshop

variable [Scalar α]

theorem laid_step {w : Workshop α} (hw : w.topology.Laid) (x : BuildStep α) :
    (w.step x).topology.Laid := by
  rcases w.topology_step_cases x with ⟨count, -, h⟩ | ⟨p, -, -, h⟩ | ⟨-, -, h⟩ <;> rw [h]
  · exact hw.addBody count
  · exact hw.addConstraint p.size
  · exact hw

theorem build_laid (steps : List (BuildStep α)) : (build steps).topology.Laid :=
  List.foldlRecOn (motive := fun w : Workshop α => w.topology.Laid) steps step .empty
    fun _ hw x _ => laid_step hw x

theorem counts_step (w : Workshop α) (x : BuildStep α) :
    (w.step x).topology.bodies.map (·.count) =
      w.topology.bodies.map (·.count) ++ x.count?.toList := by
  rcases w.topology_step_cases x with ⟨count, rfl, h⟩ | ⟨p, rfl, -, h⟩ | ⟨hx, -, h⟩ <;> rw [h]
  · simp [Topology.addBody, BuildStep.count?]
  · exact (List.append_nil _).symm
  · cases x with
    | body count => exact absurd rfl (hx count)
    | make | addContact | addFriction | addDrive => exact (List.append_nil _).symm

/-- Behind the ground there are the bodies that were added, in order. -/
theorem counts_build (steps : List (BuildStep α)) :
    (build steps).topology.bodies.map (·.count) = 0 :: steps.filterMap BuildStep.count? := by
  induction steps using List.reverseRecOn with
  | nil => rfl
  | append_singleton steps x ih =>
    have hstep : build (steps ++ [x]) = (build steps).step x := build_append steps [x]
    rw [hstep, counts_step, ih, List.filterMap_append, List.cons_append]
    cases h : x.count? <;> simp [h]

end Workshop

end OneSided
