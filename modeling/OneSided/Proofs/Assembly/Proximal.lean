import OneSided.Proofs.Assembly.Bounds
import OneSided.Proofs.Contact.Condition

/-! The contacts that are open by no more than a margin. Main statement: they are listed in
order, each of them once, and no contact that violates a condition by more than a tolerance
within the margin is missing. A state that fits the arrays of an assembly always has such a
list, as long as the contacts were made in the assembly. -/

namespace OneSided

/-! ### Asking all -/

section Asking

variable {α β γ : Type} {f : β → Except (Fault α) γ}

theorem mapM_eq_ok_iff {xs : List β} {ys : List γ} :
    xs.mapM f = .ok ys ↔ xs.map f = ys.map .ok := by
  induction xs generalizing ys with
  | nil => cases ys <;> simp [pure, Except.pure]
  | cons x xs ih =>
    rw [List.mapM_cons]
    cases hx : f x with
    | error => cases ys <;> simp [hx, bind, Except.bind]
    | ok y =>
      cases hxs : xs.mapM f with
      | error => cases ys <;> simp [hx, hxs, ← ih, bind, Except.bind]
      | ok zs => cases ys <;> simp [hx, hxs, ← ih, bind, Except.bind, pure, Except.pure]

theorem answered_mapM_iff {xs : List β} : Answered (xs.mapM f) ↔ ∀ x ∈ xs, Answered (f x) := by
  constructor
  · rintro ⟨ys, h⟩ x hx
    have hmem : f x ∈ ys.map .ok := mapM_eq_ok_iff.1 h ▸ List.mem_map_of_mem hx
    obtain ⟨y, -, hy⟩ := List.mem_map.1 hmem
    exact ⟨y, hy.symm⟩
  · intro h
    induction xs with
    | nil => exact ⟨[], rfl⟩
    | cons x xs ih =>
      rw [List.forall_mem_cons] at h
      rw [List.mapM_cons]
      exact h.1.bind fun y => (ih h.2).map (y :: ·)

end Asking

/-! ### Handles of marked places -/

namespace Handle

variable {k : Kind} {marks : List Bool}

/-- The handles of the marked places, in order. -/
def marked (marks : List Bool) : List (Handle k) :=
  (marks.zipIdx.filter fun (b, _) => b).map fun (_, i) => ofNat i

theorem mem_marked {h : Handle k} (hn : marks.length ≤ UInt32.size) :
    h ∈ marked marks ↔ marks[h.toNat]? = some true := by
  simp only [marked, List.mem_map, List.mem_filter, Prod.exists]
  constructor
  · rintro ⟨b, i, ⟨hmem, hb⟩, rfl⟩
    rw [List.mk_mem_zipIdx_iff_getElem?] at hmem
    have hi := (List.getElem?_eq_some_iff.1 hmem).1
    rw [toNat_ofNat (by omega), hmem, hb]
  · intro h
    refine ⟨true, _, ⟨List.mk_mem_zipIdx_iff_getElem?.2 h, rfl⟩, toNat_injective (toNat_ofNat ?_)⟩
    exact UInt32.toNat_lt_size _

theorem pairwise_marked (hn : marks.length ≤ UInt32.size) :
    (marked marks : List (Handle k)).Pairwise fun a b => a.toNat < b.toNat := by
  have hplaces : marks.zipIdx.Pairwise fun a b => a.2 < b.2 := by
    rw [← List.pairwise_map, List.zipIdx_map_snd]
    exact List.pairwise_lt_range'
  have hlt : ∀ a ∈ marks.zipIdx.filter fun (b, _) => b, a.2 < UInt32.size := fun a ha =>
    Nat.lt_of_lt_of_le (List.snd_lt_of_mem_zipIdx (List.mem_of_mem_filter ha)) hn
  rw [marked, List.pairwise_map]
  refine (hplaces.filter _).imp_of_mem fun ha hb hab => ?_
  rw [toNat_ofNat (hlt _ ha), toNat_ofNat (hlt _ hb)]
  exact hab

end Handle

/-! ### Contacts within a margin -/

section Exact

variable [Grain] {s : State ℝ} {margin : ℝ}

namespace Unilateral

variable {κ : Type} [Unilateral κ ℝ] {c : κ}

theorem isProximal_eq_ok_true :
    isProximal c s margin = .ok true ↔
      ∃ p, positionError c s = .ok p ∧ (sense c).toScalar * p ≤ margin := by
  rw [isProximal]
  cases positionError c s with
  | error => simp [bind, Except.bind]
  | ok p => simp [bind, Except.bind, pure, Except.pure, Sense.apply_eq_mul]

/-- Whatever condition is violated, the contact is not open by more than the tolerance. -/
theorem exists_position_of_violation {tol : ℝ} (ht : 0 ≤ tol) {w : Violation}
    (h : violation c s tol = .ok (some w)) :
    ∃ p, positionError c s = .ok p ∧ (sense c).toScalar * p ≤ tol := by
  obtain ⟨r, hr, hw⟩ := exists_fails_of_violation ht h
  refine ⟨r.position, hr.position, ?_⟩
  cases w with
  | penetration =>
    have hneg : (sense c).toScalar * r.position < -tol := hw
    linarith
  | approach => exact ((sense c).abs_le_iff.1 hw.1).2
  | acceleration | attraction | complementarity => exact ((sense c).abs_le_iff.1 hw.1.1).2

end Unilateral

namespace Assembly

variable {a : Assembly ℝ} {hs : List (Handle .contact)}

theorem answered_proximal_iff :
    Answered (a.proximal s margin) ↔ ∀ c ∈ a.contacts, Answered (Unilateral.positionError c s) := by
  constructor
  · intro h c hc
    obtain ⟨near, hnear, -⟩ := h.of_bind
    obtain ⟨p, hp, -⟩ := (answered_mapM_iff.1 ⟨near, hnear⟩ c hc).of_bind
    exact ⟨p, hp⟩
  · intro h
    have hnear := answered_mapM_iff.2 fun c hc => (h c hc).map fun p =>
      decide ((Unilateral.sense c).apply p ≤ margin)
    exact hnear.map Handle.marked

/-- The list marks the places of the contacts that are within the margin. -/
theorem exists_marks_of_proximal (h : a.proximal s margin = .ok hs) :
    ∃ near : List Bool, hs = Handle.marked near ∧ near.length = a.contacts.length ∧
      ∀ i : Nat, near[i]? = some true ↔
        ∃ c, a.contacts[i]? = some c ∧ Unilateral.isProximal c s margin = .ok true := by
  rw [proximal] at h
  cases hnear : a.contacts.mapM fun c => Unilateral.isProximal c s margin with
  | error =>
    rw [hnear] at h
    cases h
  | ok near =>
    rw [hnear] at h
    cases h
    have hmap := mapM_eq_ok_iff.1 hnear
    refine ⟨near, rfl, ?_, fun i => ?_⟩
    · have hlength := congrArg List.length hmap
      rwa [List.length_map, List.length_map, eq_comm] at hlength
    · have hplace := congrArg (·[i]?) hmap
      simp only [List.getElem?_map] at hplace
      rw [← Option.map_eq_some_iff, hplace]
      cases near[i]? <;> simp

variable (hn : a.contacts.length ≤ UInt32.size)
include hn

theorem pairwise_of_proximal (h : a.proximal s margin = .ok hs) :
    hs.Pairwise fun k l => k.toNat < l.toNat := by
  obtain ⟨near, rfl, hlength, -⟩ := exists_marks_of_proximal h
  exact Handle.pairwise_marked (hlength ▸ hn)

theorem mem_of_proximal (h : a.proximal s margin = .ok hs) (k : Handle .contact) :
    k ∈ hs ↔ ∃ c p, a.contact? k = some c ∧ Unilateral.positionError c s = .ok p ∧
      (Unilateral.sense c).toScalar * p ≤ margin := by
  obtain ⟨near, rfl, hlength, hmarks⟩ := exists_marks_of_proximal h
  rw [Handle.mem_marked (hlength ▸ hn), hmarks]
  simp only [Unilateral.isProximal_eq_ok_true, contact?, exists_and_left]

end Assembly

end Exact

/-! ### Contacts of the assembly -/

section Compatible

variable {α : Type} {t : Topology} {s : State α}

/-- A contact that wraps no lock looks at nothing. -/
theorem Contact.within_of_lock_eq_none {c : Contact α} (hc : c.lock? = none) (t : Topology) :
    (Element.contact c).Within t := by
  cases c with
  | prescribed =>
    refine ⟨fun l hl => ?_, fun c hc => ?_, fun m hm => ?_⟩
    · cases hl
    · cases hc
    · cases hm
  | stop | gliding | gripping => cases hc

variable [Scalar α]

/-- In a state that fits the arrays of the assembly a contact inside it tells its error. -/
theorem Contact.positionError_answered {c : Contact α} (hc : (Element.contact c).Within t)
    (hs : t.matchesState s = true) : Answered (Unilateral.positionError c s) := by
  obtain ⟨hq, hmotions, hslots⟩ := Topology.lengths_of_matchesState hs
  have henabled {l : Lock α} (hl : l.Within t) : Answered (s.isEnabled l.constraint) :=
    Answered.map (Fault.fetch_answered (hslots ▸ hl.1)) _
  have hmeasure {g : Ball α} (hg : g.Within t) {β : Type} (m : Ball α → Motion α → Motion α → β) :
      Answered (g.measure s m) :=
    Answered.bind (Fault.fetch_answered (hmotions ▸ hg.base)) fun b =>
      Answered.map (Fault.fetch_answered (hmotions ▸ hg.follower)) (m g b)
  cases c with
  | stop c =>
    obtain ⟨hcoherent, -⟩ := hc.stop c rfl
    have hw : (Lock.coordinate c.lock).Within t := hc.lock _ rfl
    change Answered (c.positionError s)
    rw [hcoherent.positionError, (hcoherent.entries s).1]
    refine (henabled hw).bind fun _ => Answered.map (Fault.fetch_answered (hq ▸ hw.2)) _
  | gliding c =>
    have hw : (Lock.gliding c.lock).Within t := hc.lock _ rfl
    change Answered (c.positionError s)
    rw [c.positionError_eq]
    exact (henabled hw).bind fun _ => hmeasure hw.2 _
  | gripping c =>
    have hw : (Lock.sticking c.lock).Within t := hc.lock _ rfl
    change Answered (c.positionError s)
    rw [c.positionError_eq]
    exact (henabled hw).bind fun _ => hmeasure hw.2 _
  | prescribed c => exact ⟨_, rfl⟩

end Compatible

section Building

variable {α : Type} [Scalar α]

/-- The step keeps to the assembly: a constructor is called with bodies of it, and a contact
that is registered was made in it or wraps no lock. -/
def BuildStep.Local (x : BuildStep α) (w : Workshop α) : Prop :=
  match x with
  | make p => p.Local w.topology
  | addContact c => w.Holds c ∨ c.lock? = none
  | _ => True

namespace Workshop

/-- All steps keep to the assembly. -/
def Local : List (BuildStep α) → Workshop α → Prop
  | [], _ => True
  | x :: xs, w => x.Local w ∧ Local xs (w.step x)

/-- All that was made and all contacts that were registered are inside the assembly. -/
structure Inside (w : Workshop α) : Prop where
  laid : w.topology.Laid
  made : ∀ e ∈ w.made, e.Within w.topology
  contacts : ∀ c ∈ w.assembly.contacts, (Element.contact c).Within w.topology

omit [Scalar α] in
theorem empty_inside : (empty : Workshop α).Inside := ⟨.empty, nofun, nofun⟩

theorem Holds.within {w : Workshop α} (hw : w.Inside) {c : Contact α} (hc : w.Holds c) :
    (Element.contact c).Within w.topology := by
  obtain ⟨k, hk, rfl | ⟨h, rfl⟩⟩ := hc
  · exact hw.made _ hk
  · exact (hw.made _ hk).of_stems (.contact h .self)

theorem Inside.step {w : Workshop α} (hw : w.Inside) {x : BuildStep α} (hx : x.Local w) :
    (w.step x).Inside := by
  cases x with
  | make p =>
    cases hp : p.make w.topology with
    | error => simpa only [Workshop.step, hp] using hw
    | ok r =>
      obtain ⟨e, t⟩ := r
      have hstep : w.step (.make p) = ⟨{ w.assembly with topology := t }, w.made ++ [e]⟩ := by
        simp only [Workshop.step, hp]
      have hgrows := w.growsTo_step (.make p)
      have hlaid := laid_step hw.laid (.make p)
      rw [hstep] at hgrows hlaid ⊢
      refine ⟨hlaid, ?_, fun c hc => (hw.contacts c hc).mono hgrows⟩
      rw [List.forall_mem_append, List.forall_mem_singleton]
      exact ⟨fun e he => (hw.made e he).mono hgrows, Part.within_of_make hw.laid hx hp⟩
  | addContact c =>
    refine ⟨hw.laid, hw.made, ?_⟩
    rw [show (w.step (.addContact c)).assembly.contacts = w.assembly.contacts ++
      [Unilateral.withHandle c (Handle.ofNat w.assembly.contacts.length)] from rfl,
      List.forall_mem_append, List.forall_mem_singleton]
    refine ⟨hw.contacts, ?_⟩
    have hc : (Element.contact c).Within w.topology := by
      rcases hx with hc | hc
      · exact hc.within hw
      · exact Contact.within_of_lock_eq_none hc _
    exact hc.of_stems (.contact _ .self)
  | body count =>
    have hgrows := w.growsTo_step (.body count)
    exact ⟨laid_step hw.laid (.body count), fun e he => (hw.made e he).mono hgrows,
      fun c hc => (hw.contacts c hc).mono hgrows⟩
  | addFriction | addDrive => exact ⟨hw.laid, hw.made, hw.contacts⟩

theorem Inside.after {w : Workshop α} (hw : w.Inside) {steps : List (BuildStep α)}
    (h : Local steps w) : (w.after steps).Inside := by
  induction steps generalizing w with
  | nil => exact hw
  | cons x steps ih => exact ih (hw.step h.1) h.2

end Workshop

end Building

/-- The list of the contacts that are open by no more than a margin, in exact arithmetic. It
is there whenever all contacts tell their errors, and so in every state that fits the arrays
of an assembly that was built from its own bodies. It names the contacts whose error is
within the margin, in strictly increasing order. A contact that violates a condition by more
than a tolerance within the margin is among them, enabled or not, and a larger margin only
adds to the list. -/
theorem proximal_complete [Grain] :
    (∀ (a : Assembly ℝ) (s : State ℝ) (margin : ℝ), a.contacts.length ≤ UInt32.size →
      (Answered (a.proximal s margin) ↔
        ∀ c ∈ a.contacts, Answered (Unilateral.positionError c s)) ∧
      ∀ hs, a.proximal s margin = .ok hs →
        hs.Pairwise (fun k l => k.toNat < l.toNat) ∧
        (∀ k, k ∈ hs ↔ ∃ c p, a.contact? k = some c ∧ Unilateral.positionError c s = .ok p ∧
          (Unilateral.sense c).toScalar * p ≤ margin) ∧
        (∀ tol, 0 ≤ tol → tol ≤ margin → ∀ k c w, a.contact? k = some c →
          Unilateral.violation c s tol = .ok (some w) → k ∈ hs) ∧
        ∀ wider, margin ≤ wider → ∃ more, a.proximal s wider = .ok more ∧ hs ⊆ more) ∧
    ∀ steps : List (BuildStep ℝ), Workshop.Local steps .empty → ∀ s : State ℝ,
      (Workshop.build steps).topology.matchesState s = true →
        ∀ margin, Answered ((Workshop.build steps).assembly.proximal s margin) := by
  refine ⟨fun a s margin hn => ⟨Assembly.answered_proximal_iff, fun hs h =>
    ⟨Assembly.pairwise_of_proximal hn h, Assembly.mem_of_proximal hn h, ?_, ?_⟩⟩,
    fun steps hlocal s hs margin => ?_⟩
  · intro tol ht hmargin k c w hk hw
    obtain ⟨p, hp, hle⟩ := Unilateral.exists_position_of_violation ht hw
    exact (Assembly.mem_of_proximal hn h k).2 ⟨c, p, hk, hp, hle.trans hmargin⟩
  · intro wider hwider
    have hall := Assembly.answered_proximal_iff.1 ⟨hs, h⟩
    obtain ⟨more, hmore⟩ := Assembly.answered_proximal_iff.2 hall
    refine ⟨more, hmore, fun k hk => ?_⟩
    obtain ⟨c, p, hc, hp, hle⟩ := (Assembly.mem_of_proximal hn h k).1 hk
    exact (Assembly.mem_of_proximal hn hmore k).2 ⟨c, p, hc, hp, hle.trans hwider⟩
  · have hinside := Workshop.empty_inside.after hlocal
    exact Assembly.answered_proximal_iff.2 fun c hc =>
      Contact.positionError_answered (hinside.contacts c hc) hs

/-- A coordinate is beyond its upper stop, another contact is open. -/
theorem proximal_complete_of_stop :
    let _ : Grain := ⟨2⁻¹ ^ 52⟩
    let body : Mobilizer := ⟨⟨1⟩, 0, 1⟩
    let stop : Contact ℝ := .stop ⟨.upper, body, 0, 0, ⟨1, none⟩, ⟨⟨0⟩, 0, 0⟩, none⟩
    let apart : Contact ℝ := .prescribed ⟨.positive, 2, 0, 0, ⟨1, none⟩, none, none⟩
    let steps : List (BuildStep ℝ) :=
      [.body 1, .make (.stop .upper body 0 0 ⟨1, none⟩), .addContact apart, .addContact stop]
    let w := Workshop.build steps
    let s : State ℝ := Operation.runAll [.setCoordinate 0 3] w.topology.allocate
    Workshop.Local steps .empty ∧ w.topology.matchesState s = true ∧
      Unilateral.violation (Unilateral.withHandle stop ⟨1⟩) s 1 = .ok (some .penetration) ∧
      ∃ hs more, w.assembly.proximal s 1 = .ok hs ∧ w.assembly.proximal s 2 = .ok more ∧
        ⟨1⟩ ∈ hs ∧ ⟨0⟩ ∉ hs ∧ ⟨0⟩ ∈ more ∧ hs ⊆ more := by
  intro _ body stop apart steps w s
  have hlocal : Workshop.Local steps .empty :=
    ⟨trivial, List.mem_cons_of_mem _ List.mem_cons_self, .inr rfl,
      .inl ⟨stop, List.mem_cons_self, .inl rfl⟩, trivial⟩
  have hmatch : w.topology.matchesState s = true := rfl
  have hstop : w.assembly.contact? ⟨1⟩ = some (Unilateral.withHandle stop ⟨1⟩) := rfl
  have hapart : w.assembly.contact? ⟨0⟩ = some (Unilateral.withHandle apart ⟨0⟩) := rfl
  have hbeyond : Unilateral.positionError (Unilateral.withHandle stop ⟨1⟩) s = .ok (3 : ℝ) :=
    congrArg Except.ok (sub_zero 3)
  have hviolation : Unilateral.violation (Unilateral.withHandle stop ⟨1⟩) s 1 =
      .ok (some .penetration) := by
    rw [Unilateral.violation, hbeyond]
    change (if -(3 : ℝ) < -1 then _ else _) = _
    rw [if_pos (by norm_num)]
    rfl
  obtain ⟨hlist, hthere⟩ := proximal_complete
  have hn : w.assembly.contacts.length ≤ UInt32.size := by decide
  obtain ⟨hs, hproximal⟩ := hthere steps hlocal s hmatch 1
  obtain ⟨-, hmem, hviolated, hwider⟩ := (hlist w.assembly s 1 hn).2 hs hproximal
  obtain ⟨more, hmore, hsub⟩ := hwider 2 (by norm_num)
  obtain ⟨-, hmem', -⟩ := (hlist w.assembly s 2 hn).2 more hmore
  refine ⟨hlocal, hmatch, hviolation, hs, more, hproximal, hmore,
    hviolated 1 zero_le_one le_rfl _ _ _ hstop hviolation, ?_, ?_, hsub⟩
  · rw [hmem]
    rintro ⟨c, p, hc, hp, hle⟩
    cases hapart.symm.trans hc
    cases hp
    change ((1 : ℤ) : ℝ) * 2 ≤ 1 at hle
    norm_num at hle
  · rw [hmem']
    refine ⟨_, 2, hapart, rfl, ?_⟩
    change ((1 : ℤ) : ℝ) * 2 ≤ 2
    norm_num

end OneSided
