import OneSided.Proofs.State.Switching

/-! Elements under their handles. The owner of an assembly keeps what the constructors
return and hands copies of it over, in any order. Main statement: an element is told how
many of its kind were handed over before it; under that handle it is found ever after,
unchanged but for the handle that it carries. What the owner keeps stays as it is, and
two copies of one element switch the same lock. -/

namespace OneSided

variable {α : Type}

/-! ### Elements and their handles -/

/-- The contact without its handle. -/
def Contact.bare : Contact α → Contact α
  | stop c => .stop { c with handle? := none }
  | gliding c => .gliding { c with handle? := none }
  | gripping c => .gripping { c with handle? := none }
  | prescribed c => .prescribed { c with handle? := none }

/-- The friction element without its handle. -/
def FrictionElement.bare : FrictionElement α → FrictionElement α
  | joint f => .joint { f with handle? := none }
  | prescribed f => .prescribed { f with handle? := none }

/-- The drive without its handle. -/
def Drive.bare : Drive α → Drive α
  | motor m => .motor { m with handle? := none }
  | prescribed d => .prescribed { d with handle? := none }

namespace Element

/-- The kind of handle that an element is registered under. Locks are not registered. -/
def kind? : Element α → Option Kind
  | contact _ => some .contact
  | friction _ => some .friction
  | drive _ => some .drive
  | lock _ => none

/-- The element without its handle. Copies of one element agree in this. -/
def bare : Element α → Element α
  | contact c => .contact c.bare
  | friction f => .friction f.bare
  | drive d => .drive d.bare
  | lock l => .lock l

theorem lock?_bare (e : Element α) : e.bare.lock? = e.lock? := by
  rcases e with c | f | d | l
  · cases c <;> rfl
  · cases f <;> rfl
  · cases d <;> rfl
  · rfl

section Handles

variable [Scalar α] {k : Kind}

/-- The handle of that kind that an element carries. -/
def handle? (k : Kind) (e : Element α) : Option (Handle k) :=
  match k, e with
  | .contact, contact c => Unilateral.handle? c
  | .friction, friction f => LimitedFriction.handle? f
  | .drive, drive d => BoundedDrive.handle? d
  | _, _ => none

/-- An element of another kind does not take the handle. -/
def withHandle (h : Handle k) (e : Element α) : Element α :=
  match k, h, e with
  | .contact, h, contact c => .contact (Unilateral.withHandle c h)
  | .friction, h, friction f => .friction (LimitedFriction.withHandle f h)
  | .drive, h, drive d => .drive (BoundedDrive.withHandle d h)
  | _, _, e => e

/-- The second element is the first one, but carries the handle. -/
structure RegisteredAs (h : Handle k) (e e' : Element α) : Prop where
  bare : e'.bare = e.bare
  handle : e'.handle? k = some h

theorem registeredAs_withHandle {e : Element α} (he : e.kind? = some k) (h : Handle k) :
    RegisteredAs h e (e.withHandle h) := by
  rcases e with c | f | d | l <;> cases he
  · cases c <;> exact ⟨rfl, rfl⟩
  · cases f <;> exact ⟨rfl, rfl⟩
  · cases d <;> exact ⟨rfl, rfl⟩

theorem isEnabled_bare (e : Element α) (s : State α) : e.bare.isEnabled s = e.isEnabled s := by
  rcases e with c | f | d | l
  · cases c <;> rfl
  · cases f <;> rfl
  · cases d <;> rfl
  · rfl

end Handles

end Element

/-! ### Copies -/

theorem State.isEnabled_switch {s : State α} {c : Handle .constraint}
    (hc : c.toNat < s.slots.length) (on : Bool) (n : List (Notice α)) :
    (∃ b, (s.switch c on n).answer = .ok b) ∧ (s.switch c on n).state.isEnabled c = .ok on := by
  rcases s.switch_cases c on n with ⟨f, hf, -⟩ | ⟨hon, h⟩ | ⟨a, ha, -, h⟩
  · have hslot : s.isEnabled c = .ok s.slots[c.toNat].enabled := by
      rw [isEnabled_eq_ok, flags, List.getElem?_map, List.getElem?_eq_getElem hc, Option.map_some]
    cases hslot.symm.trans hf
  · rw [h]
    exact ⟨⟨_, rfl⟩, hon⟩
  · rw [h]
    exact ⟨⟨_, rfl⟩, isEnabled_turn_self ha⟩

section

variable [Scalar α]

/-- The elements wrap the same lock, tell the same of it in every state, and either of them
tells what was done through the other. -/
structure Element.Twins (e e' : Element α) : Prop where
  lock : e.lock? = e'.lock?
  enabled : ∀ s, e.isEnabled s = e'.isEnabled s
  switched : ∀ l, e.lock? = some l → ∀ s : State α, l.constraint.toNat < s.slots.length →
    ∀ on, (∃ b, (e.switch s on).answer = .ok b) ∧ e'.isEnabled (e.switch s on).state = .ok on

theorem Element.twins_of_bare {e e' : Element α} (h : e.bare = e'.bare) : e.Twins e' := by
  have hlock : e.lock? = e'.lock? := by rw [← e.lock?_bare, h, e'.lock?_bare]
  refine ⟨hlock, fun s => ?_, fun l hl s hs on => ?_⟩
  · rw [← e.isEnabled_bare, h, e'.isEnabled_bare]
  · obtain ⟨n, hn⟩ := switch_of_constraint (e := e) (by rw [constraint_eq, hl]; rfl) s on
    rw [hn, e'.isEnabled_of_lock (hlock ▸ hl)]
    exact State.isEnabled_switch hs on n

end

/-! ### The elements of an assembly -/

namespace Assembly

variable {k : Kind}

/-- The elements of a kind, in the order of their handles. -/
def elements (k : Kind) (a : Assembly α) : List (Element α) :=
  match k with
  | .contact => a.contacts.map .contact
  | .friction => a.frictions.map .friction
  | .drive => a.drives.map .drive
  | .body | .constraint | .multiplier => []

/-- The element that a handle names. -/
def element? (a : Assembly α) (h : Handle k) : Option (Element α) :=
  match k, h with
  | .contact, h => (a.contact? h).map .contact
  | .friction, h => (a.friction? h).map .friction
  | .drive, h => (a.drive? h).map .drive
  | .body, _ | .constraint, _ | .multiplier, _ => none

/-- The elements of a kind with their handles, as the assembly lists them. -/
def handled (k : Kind) (a : Assembly α) : List (Handle k × Element α) :=
  match k with
  | .contact => a.handledContacts.map (Prod.map id .contact)
  | .friction => a.handledFrictions.map (Prod.map id .friction)
  | .drive => a.handledDrives.map (Prod.map id .drive)
  | .body | .constraint | .multiplier => []

theorem element?_eq (a : Assembly α) (h : Handle k) :
    a.element? h = (a.elements k)[h.toNat]? := by
  cases k <;> simp [element?, elements, contact?, friction?, drive?]

theorem handled_eq (a : Assembly α) :
    a.handled k = (a.elements k).zipIdx.map fun (e, i) => (Handle.ofNat i, e) := by
  cases k <;>
    simp [handled, elements, handledContacts, handledFrictions, handledDrives, List.zipIdx_map]

/-- As long as there are handles enough, the list has each element at the place that its
handle names. -/
theorem getElem?_handled {a : Assembly α} (ha : (a.elements k).length ≤ UInt32.size) {n : Nat}
    {h : Handle k} {e : Element α} :
    (a.handled k)[n]? = some (h, e) ↔ h.toNat = n ∧ a.element? h = some e := by
  rw [handled_eq, element?_eq, List.getElem?_map, List.getElem?_zipIdx, Option.map_map]
  simp only [Option.map_eq_some_iff, Function.comp_apply, Nat.zero_add, Prod.mk.injEq]
  constructor
  · rintro ⟨e, he, rfl, rfl⟩
    have hn : n < (a.elements k).length := (List.getElem?_eq_some_iff.1 he).1
    have hword : (Handle.ofNat n : Handle k).toNat = n :=
      Handle.toNat_ofNat (Nat.lt_of_lt_of_le hn ha)
    exact ⟨hword, by rw [hword, he]⟩
  · rintro ⟨rfl, he⟩
    exact ⟨e, he, h.ofNat_toNat, rfl⟩

variable [Scalar α]

/-- Registers whatever can be registered. -/
def register (a : Assembly α) : Element α → Option ((k : Kind) × Registration α k)
  | .contact c => some ⟨.contact, a.addContact c⟩
  | .friction f => some ⟨.friction, a.addFriction f⟩
  | .drive d => some ⟨.drive, a.addDrive d⟩
  | .lock _ => none

/-- An element is added behind the others of its kind, under the handle that counts them;
the other kinds stay as they are. -/
theorem register_of_kind (a : Assembly α) {e : Element α} (he : e.kind? = some k) :
    ∃ r : Registration α k, a.register e = some ⟨k, r⟩ ∧
      r.handle = Handle.ofNat (a.elements k).length ∧
      r.assembly.elements k = a.elements k ++ [e.withHandle r.handle] ∧
      ∀ k', k' ≠ k → r.assembly.elements k' = a.elements k' := by
  rcases e with c | f | d | l <;> cases he
  · refine ⟨a.addContact c, rfl, ?_, ?_, fun k' hk => ?_⟩
    · simp [elements, addContact]
    · simp [elements, addContact, Element.withHandle]
    · cases k' with
      | contact => exact absurd rfl hk
      | _ => rfl
  · refine ⟨a.addFriction f, rfl, ?_, ?_, fun k' hk => ?_⟩
    · simp [elements, addFriction]
    · simp [elements, addFriction, Element.withHandle]
    · cases k' with
      | friction => exact absurd rfl hk
      | _ => rfl
  · refine ⟨a.addDrive d, rfl, ?_, ?_, fun k' hk => ?_⟩
    · simp [elements, addDrive]
    · simp [elements, addDrive, Element.withHandle]
    · cases k' with
      | drive => exact absurd rfl hk
      | _ => rfl

theorem register_eq_none {a : Assembly α} {e : Element α} (he : e.kind? = none) :
    a.register e = none := by
  rcases e with c | f | d | l <;> cases he
  rfl

end Assembly

/-! ### The owner of an assembly -/

variable [Scalar α]

/-- What an owner does, who keeps elements and registers copies of them. -/
inductive OwnerStep (α : Type) where
  | body (count : Nat)
  | make (p : Part α)
  /-- Gets hold of another element, such as a copy of one. -/
  | keep (e : Element α)
  /-- Gives a kept element a handle by hand. -/
  | mark {k : Kind} (i : Nat) (h : Handle k)
  | register (i : Nat)

namespace OwnerStep

/-- The element of that kind that a step hands over, as it is then. -/
def given? (k : Kind) (x : OwnerStep α) (w : Workshop α) : Option (Element α) :=
  match x with
  | register i => w.made[i]?.filter (·.kind? = some k)
  | _ => none

/-- Gives the element kept in that place a handle by hand. -/
def Marks (i : Nat) : OwnerStep α → Prop
  | mark j _ => j = i
  | _ => False

end OwnerStep

namespace Workshop

def own (w : Workshop α) : OwnerStep α → Workshop α
  | .body count => w.step (.body count)
  | .make p => w.step (.make p)
  | .keep e => { w with made := w.made ++ [e] }
  | .mark i h => { w with made := w.made.modify i (·.withHandle h) }
  | .register i =>
    match w.made[i]?.bind w.assembly.register with
    | some ⟨_, r⟩ => { w with assembly := r.assembly }
    | none => w

def ownAll (steps : List (OwnerStep α)) (w : Workshop α) : Workshop α := steps.foldl own w

/-- The elements of that kind that the steps hand over, in order. -/
def given (k : Kind) : List (OwnerStep α) → Workshop α → List (Element α)
  | [], _ => []
  | x :: steps, w => (x.given? k w).toList ++ given k steps (w.own x)

variable {k : Kind} {w : Workshop α}

theorem ownAll_append (pre post : List (OwnerStep α)) (w : Workshop α) :
    ownAll (pre ++ post) w = ownAll post (ownAll pre w) := List.foldl_append

theorem given_append (pre post : List (OwnerStep α)) (w : Workshop α) :
    given k (pre ++ post) w = given k pre w ++ given k post (ownAll pre w) := by
  induction pre generalizing w with
  | nil => rfl
  | cons x pre ih => rw [List.cons_append, given, ih, given, List.append_assoc]; rfl

omit [Scalar α] in
theorem kind_of_given? {x : OwnerStep α} {e : Element α} (he : x.given? k w = some e) :
    e.kind? = some k := by
  cases x with
  | register i =>
    rw [OwnerStep.given?, Option.filter_eq_some_iff] at he
    exact of_decide_eq_true he.2
  | body | make | keep | mark => cases he

/-- An element that is registered stands behind those of its kind that were before. -/
theorem getElem?_given {before rest : List (OwnerStep α)} {i : Nat} {e : Element α}
    (he : (ownAll before w).made[i]? = some e) (hk : e.kind? = some k) :
    (given k (before ++ .register i :: rest) w)[(given k before w).length]? = some e := by
  have hgiven : (OwnerStep.register i).given? k (ownAll before w) = some e := by
    rw [OwnerStep.given?, he, Option.filter_some, if_pos (decide_eq_true hk)]
  rw [given_append, given, hgiven]
  simp

theorem kind_of_mem_given {steps : List (OwnerStep α)} {e : Element α}
    (he : e ∈ given k steps w) : e.kind? = some k := by
  induction steps generalizing w with
  | nil => cases he
  | cons x steps ih =>
    rw [given, List.mem_append, Option.mem_toList] at he
    exact he.elim kind_of_given? ih

/-- A step adds what it hands over behind the elements of its kind. -/
theorem elements_own (w : Workshop α) (x : OwnerStep α) :
    (w.own x).assembly.elements k = w.assembly.elements k ++ (x.given? k w).toList.map
      (·.withHandle (Handle.ofNat (w.assembly.elements k).length : Handle k)) := by
  cases x with
  | body | keep | mark => exact (List.append_nil _).symm
  | make p =>
    rw [own, step]
    cases p.make w.topology <;> exact (List.append_nil _).symm
  | register i =>
    rw [own, OwnerStep.given?]
    cases w.made[i]? with
    | none => exact (List.append_nil _).symm
    | some e =>
      cases he : e.kind? with
      | none => simp [Assembly.register_eq_none he, he]
      | some k' =>
        obtain ⟨r, hr, hh, hself, hother⟩ := w.assembly.register_of_kind he
        rw [Option.bind_some, hr, Option.filter_some, he]
        -- only a registration of the kind adds to its list
        by_cases hk : k = k'
        · subst hk
          simp [hself, hh]
        · simp [Ne.symm hk, hother k hk]

/-- After any run there is what was handed over, under its own handle. -/
theorem elements_ownAll (steps : List (OwnerStep α)) (w : Workshop α) :
    (ownAll steps w).assembly.elements k = w.assembly.elements k ++ (given k steps w).mapIdx
      fun i e => e.withHandle (Handle.ofNat ((w.assembly.elements k).length + i) : Handle k) := by
  induction steps generalizing w with
  | nil => exact (List.append_nil _).symm
  | cons x steps ih =>
    have hrun : ownAll (x :: steps) w = ownAll steps (w.own x) := rfl
    rw [hrun, ih, elements_own, given]
    -- the rest counts on from what the first step has added
    cases x.given? k w with
    | none => simp
    | some e => simp [Nat.add_assoc, Nat.add_comm 1]

/-- What is kept stays as it is until its owner gives it a handle. -/
theorem made_own {x : OwnerStep α} {i : Nat} {e : Element α} (hx : ¬x.Marks i)
    (he : w.made[i]? = some e) : (w.own x).made[i]? = some e := by
  have hi : i < w.made.length := (List.getElem?_eq_some_iff.1 he).1
  cases x with
  | body => exact he
  | make p =>
    rw [own, step]
    cases p.make w.topology with
    | error => exact he
    | ok r => exact (List.getElem?_append_left hi).trans he
  | keep => exact (List.getElem?_append_left hi).trans he
  | mark j h => exact (List.getElem?_modify_ne _ _ hx).trans he
  | register j =>
    rw [own]
    cases w.made[j]?.bind w.assembly.register <;> exact he

theorem made_ownAll {steps : List (OwnerStep α)} {i : Nat} {e : Element α}
    (hsteps : ∀ x ∈ steps, ¬x.Marks i) (he : w.made[i]? = some e) :
    (ownAll steps w).made[i]? = some e := by
  induction steps generalizing w with
  | nil => exact he
  | cons x steps ih =>
    rw [List.forall_mem_cons] at hsteps
    exact ih hsteps.2 (made_own hsteps.1 he)

/-- In a new assembly the handles count from zero. -/
theorem elements_ownAll_empty (steps : List (OwnerStep α)) :
    (ownAll steps empty).assembly.elements k =
      (given k steps empty).mapIdx fun i e => e.withHandle (Handle.ofNat i : Handle k) := by
  have hempty : (empty : Workshop α).assembly.elements k = [] := by cases k <;> rfl
  simp only [elements_ownAll, hempty, List.nil_append, List.length_nil, Nat.zero_add]

theorem length_elements_ownAll (steps : List (OwnerStep α)) :
    ((ownAll steps empty).assembly.elements k).length = (given k steps empty).length := by
  rw [elements_ownAll_empty, List.length_mapIdx]

/-- A handle finds what was handed over in its place. -/
theorem element?_ownAll (steps : List (OwnerStep α)) (h : Handle k) :
    (ownAll steps empty).assembly.element? h =
      (given k steps empty)[h.toNat]?.map (·.withHandle h) := by
  rw [Assembly.element?_eq, elements_ownAll_empty, List.getElem?_mapIdx, Handle.ofNat_toNat]

end Workshop

/-- The elements of a kind in any assembly, whatever its owner has done. Each registration
returns the handle that counts those of the kind before it, and at any later time that handle
finds the element as it was registered, but for the handle, which is its own now. Other handles
find nothing. The list of the kind has exactly these pairs, in the order of the handles. What
the owner keeps stays as it is until it is marked by hand. Copies of one element share their
lock. -/
theorem elements_found (k : Kind) (steps : List (OwnerStep α))
    (hcount : (Workshop.given k steps .empty).length ≤ UInt32.size) :
    let after (xs : List (OwnerStep α)) := Workshop.ownAll xs .empty
    let a := (after steps).assembly
    (∀ before i rest e, steps = before ++ .register i :: rest →
      (after before).made[i]? = some e → e.kind? = some k →
      ∃ r : Registration α k, (after before).assembly.register e = some ⟨k, r⟩ ∧
        r.handle.toNat = (Workshop.given k before .empty).length ∧
        ∃ e', a.element? r.handle = some e' ∧ e.RegisteredAs r.handle e') ∧
    (∀ h : Handle k, Option.Rel (Element.RegisteredAs h)
      (Workshop.given k steps .empty)[h.toNat]? (a.element? h)) ∧
    (∀ n h e, (a.handled k)[n]? = some (h, e) ↔ h.toNat = n ∧ a.element? h = some e) ∧
    (∀ before rest i e, steps = before ++ rest → (after before).made[i]? = some e →
      (∀ x ∈ rest, ¬x.Marks i) → (after steps).made[i]? = some e) ∧
    ∀ (h h' : Handle k) e e', a.element? h = some e → a.element? h' = some e' →
      e.bare = e'.bare → e.Twins e' := by
  intro after a
  have hlen : (a.elements k).length ≤ UInt32.size :=
    (Workshop.length_elements_ownAll steps).symm ▸ hcount
  have hfound (h : Handle k) : a.element? h =
      (Workshop.given k steps .empty)[h.toNat]?.map (·.withHandle h) :=
    Workshop.element?_ownAll steps h
  refine ⟨?_, fun h => ?_, fun n h e => Assembly.getElem?_handled hlen, ?_, ?_⟩
  · intro before i rest e hsteps he hk
    obtain ⟨r, hr, hh, -, -⟩ := (after before).assembly.register_of_kind hk
    have hgiven : (Workshop.given k steps .empty)[(Workshop.given k before .empty).length]? =
        some e := hsteps ▸ Workshop.getElem?_given he hk
    have hword : r.handle.toNat = (Workshop.given k before .empty).length := by
      have hlt := (List.getElem?_eq_some_iff.1 hgiven).1
      rw [hh, Workshop.length_elements_ownAll, Handle.toNat_ofNat (Nat.lt_of_lt_of_le hlt hcount)]
    refine ⟨r, hr, hword, e.withHandle r.handle, ?_, e.registeredAs_withHandle hk r.handle⟩
    rw [hfound, hword, hgiven, Option.map_some]
  · rw [hfound]
    cases hgiven : (Workshop.given k steps .empty)[h.toNat]? with
    | none => exact .none
    | some e =>
      have hk := Workshop.kind_of_mem_given (List.mem_of_getElem? hgiven)
      exact .some (e.registeredAs_withHandle hk h)
  · rintro before rest i e rfl he hrest
    change (Workshop.ownAll (before ++ rest) .empty).made[i]? = some e
    rw [Workshop.ownAll_append]
    exact Workshop.made_ownAll hrest he
  · exact fun _ _ _ _ _ _ hbare => Element.twins_of_bare hbare

/-- A stop that is registered, marked by hand and registered again, with a motor between. -/
theorem elements_found_of_stop :
    let body : Mobilizer := ⟨⟨1⟩, 0, 1⟩
    let stop (h : Option (Handle .contact)) : Element Float :=
      .contact (.stop ⟨.upper, body, 0, 3, ⟨1, none⟩, ⟨⟨0⟩, 0, 3⟩, h⟩)
    let before : List (OwnerStep Float) :=
      [.body 1, .make (.stop .upper body 0 3 ⟨1, none⟩), .make (.motor body 0 3 2),
        .register 0, .register 1, .mark 0 (⟨7⟩ : Handle .contact)]
    let steps := before ++ [.register 0]
    let w := Workshop.ownAll steps .empty
    let s : State Float := w.topology.allocate
    (Workshop.given .contact steps .empty).length ≤ UInt32.size ∧
      (Workshop.ownAll before .empty).made[0]? = some (stop (some ⟨7⟩)) ∧
      (∃ r : Registration Float .contact,
        (Workshop.ownAll before .empty).assembly.register (stop (some ⟨7⟩)) = some ⟨_, r⟩ ∧
        r.handle.toNat = 1 ∧ ∃ e', w.assembly.element? r.handle = some e' ∧
          (stop (some ⟨7⟩)).RegisteredAs r.handle e') ∧
      (w.assembly.handled .contact)[1]? = some (⟨1⟩, stop (some ⟨1⟩)) ∧
      w.made[0]? = some (stop (some ⟨7⟩)) ∧
      (stop (some ⟨0⟩)).Twins (stop (some ⟨1⟩)) ∧
      (stop (some ⟨1⟩)).isEnabled ((stop (some ⟨0⟩)).switch s true).state = .ok true := by
  intro body stop before steps w s
  have hcount : (Workshop.given .contact steps .empty).length ≤ UInt32.size := by
    change 2 ≤ UInt32.size
    decide
  have hkept : (Workshop.ownAll before .empty).made[0]? = some (stop (some ⟨7⟩)) := rfl
  have hfirst : w.assembly.element? (⟨0⟩ : Handle .contact) = some (stop (some ⟨0⟩)) := rfl
  have hsecond : w.assembly.element? (⟨1⟩ : Handle .contact) = some (stop (some ⟨1⟩)) := rfl
  obtain ⟨hregistered, -, hlisted, hmade, htwins⟩ := elements_found .contact steps hcount
  have htwin := htwins _ _ _ _ hfirst hsecond rfl
  exact ⟨hcount, hkept, hregistered before 0 [] _ rfl hkept rfl,
    (hlisted 1 ⟨1⟩ _).2 ⟨rfl, hsecond⟩, hmade steps [] 0 _ (List.append_nil _).symm rfl (by simp),
    htwin, (htwin.switched _ rfl s (by decide) true).2⟩

end OneSided
