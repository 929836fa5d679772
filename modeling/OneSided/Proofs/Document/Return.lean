import OneSided.Proofs.Document.Lawful

/-! What is stored returns. Documents are trees here, and their texts play no part. Main
statement: whatever is written with finite numbers is read as it was, from its own document and
from all that restate it, and what has been read with finite numbers can be written and read
once more. -/

namespace OneSided

open Document Stored Numbered

variable {α : Type}

/-- Another way to write one case of several: its parts may be restated, and keep their
names. -/
inductive Document.CaseRestatedBy : Document α → Document α → Prop
  | parts {name : String} {fields others : List (String × Document α)}
      (h : RestatedBy (.record fields) (.record others)) :
      CaseRestatedBy (.record [(name, .record fields)]) (.record [(name, .record others)])

/-- Values of `τ` return from their documents, however these are restated. -/
structure Faithful (τ α : Type) [Stored τ α] [Numbered τ]
    (Restated : Document α → Document α → Prop) : Prop where
  returns {x : τ} : Storable x → decode (encode x : Document α) = some x
  restated {x : τ} {d : Document α} : Storable x → Restated (encode x) d → decode d = some x
  again {x : τ} {d : Document α} :
    decode d = some x → IsFinite x → decode (encode x : Document α) = some x

theorem Lawful.faithful {τ : Type} [Stored τ α] [Numbered τ] [Lawful τ α] :
    Faithful τ α RestatedBy where
  returns hx := decode_restated hx (.same _)
  restated := decode_restated
  again h hx := decode_restated ⟨hx, fits_of_decode h⟩ (.same _)

variable [Scalar α]

instance : Numbered (Regime α) where
  IsFinite r := IsFinite r.reaction

namespace Regime

variable {r : Regime α} {d : Document α}

omit [Scalar α] in
theorem ofName?_eq_some_iff {x : α} {name : String} :
    ofName? x name = some r ↔ name = r.name ∧ x = r.reaction := by
  constructor
  · intro h
    unfold ofName? at h
    split at h <;> cases h <;> exact ⟨rfl, rfl⟩
  · rintro ⟨rfl, rfl⟩
    cases r <;> rfl

theorem exists_case_of_decode (h : decode d = some r) :
    ∃ name fields, d = .record [(name, .record fields)] := by
  obtain ⟨⟨name, d'⟩, hcase, -⟩ := Option.bind_eq_some_iff.1 h
  unfold caseParts at hcase
  split at hcase
  · exact ⟨_, _, rfl⟩
  · cases hcase

theorem decode_case (name : String) (fields : List (String × Document α)) :
    (decode (.record [(name, .record fields)]) : Option (Regime α)) =
      (required (fields.lookup "reaction")).bind fun x => ofName? x name := rfl

/-- A regime is read from the name of its case and a record in which its reaction is found. -/
theorem decode_eq_some_iff :
    decode d = some r ↔ ∃ fields part, d = .record [(r.name, .record fields)] ∧
      fields.lookup "reaction" = some part ∧ decode part = some r.reaction := by
  constructor
  · intro h
    obtain ⟨name, fields, rfl⟩ := exists_case_of_decode h
    rw [decode_case, Option.bind_eq_some_iff] at h
    obtain ⟨x, hx, hname⟩ := h
    obtain ⟨part, hpart, hread⟩ := required_eq_some_iff.1 hx
    obtain ⟨rfl, rfl⟩ := ofName?_eq_some_iff.1 hname
    exact ⟨fields, part, rfl, hpart, hread⟩
  · rintro ⟨fields, part, rfl, hpart, hread⟩
    rw [decode_case, required_eq_some_iff.2 ⟨part, hpart, hread⟩, Option.bind_some,
      ofName?_eq_some_iff]
    exact ⟨rfl, rfl⟩

theorem decode_restated (hr : Storable r) (h : (encode r).CaseRestatedBy d) :
    decode d = some r := by
  obtain @⟨_, _, others, h⟩ := h
  obtain ⟨ps, hps, h⟩ := h.parts (by simp)
  obtain _ | ⟨hx, _ | _⟩ := h
  have hx := required_of_shown hx ⟨hr.finite, trivial⟩
  cases hps
  obtain ⟨part, hpart, hread⟩ := required_eq_some_iff.1 hx
  exact decode_eq_some_iff.2 ⟨others, part, rfl, hpart, hread⟩

end Regime

theorem Regime.faithful : Faithful (Regime α) α CaseRestatedBy where
  returns hr := decode_restated hr (.parts (.same _))
  restated := decode_restated
  again _ hr := decode_restated ⟨hr, trivial⟩ (.parts (.same _))

/-- What is stored returns, be it a calibration, a threshold, a sense, a stage, a regime, a
handle, a body, a motion, a half space, a ball or a lock. A regime is read only if its reaction
has its name, and a handle only from its number: no list is either of them. -/
theorem stored_values_return (α : Type) [Scalar α] :
    (Faithful (Restitution α) α RestatedBy ∧ Faithful (ImpactRange α) α RestatedBy ∧
      Faithful (DryFriction α) α RestatedBy ∧ Faithful (Thresholds α) α RestatedBy ∧
      Faithful Sense α RestatedBy ∧ Faithful Stage α RestatedBy ∧
      Faithful (Regime α) α CaseRestatedBy ∧ (∀ k, Faithful (Handle k) α RestatedBy) ∧
      Faithful Mobilizer α RestatedBy ∧ Faithful (Motion α) α RestatedBy ∧
      Faithful (HalfSpace α) α RestatedBy ∧ Faithful (Ball α) α RestatedBy ∧
      Faithful (CoordinateLock α) α RestatedBy ∧ Faithful (SpeedLock α) α RestatedBy ∧
      Faithful (GlidingBall α) α RestatedBy ∧ Faithful (StickingBall α) α RestatedBy) ∧
    (∀ (r : Regime α) (d : Document α), decode d = some r ↔
      ∃ fields part, d = .record [(r.name, .record fields)] ∧
        fields.lookup "reaction" = some part ∧ decode part = some r.reaction) ∧
    ∀ (k : Kind) (h : Handle k) (d : Document α), decode d = some h ↔ d = .int h.toNat :=
  ⟨⟨Lawful.faithful, Lawful.faithful, Lawful.faithful, Lawful.faithful, Lawful.faithful,
      Lawful.faithful, Regime.faithful, fun _ => Lawful.faithful, Lawful.faithful,
      Lawful.faithful, Lawful.faithful, Lawful.faithful, Lawful.faithful, Lawful.faithful,
      Lawful.faithful, Lawful.faithful⟩,
    fun _ _ => Regime.decode_eq_some_iff, fun _ _ _ => Handle.decode_eq_some_iff⟩

/-- A calibration is given as a list, its range with the two speeds exchanged and a remark; a
friction without the transition speed, which it does not have. -/
theorem stored_values_return_of_calibrations :
    let r : Restitution Float := ⟨0.5, some ⟨0, 2⟩⟩
    let range : List (String × Document Float) :=
      [("min_cor_speed", .real 2), ("remark", .text "steel"), ("capture_speed", .real 0)]
    let f : DryFriction Float := ⟨1, 0.5, 0, none⟩
    let friction : List (String × Document Float) :=
      [("mu_v", .real 0), ("mu_s", .real 1), ("mu_d", .real 0.5)]
    Storable r ∧ decode (.list [.real 0.5, .record range]) = some r ∧
      decode (encode r : Document Float) = some r ∧
      Storable f ∧ decode (.record friction) = some f := by
  intro r range f friction
  obtain ⟨⟨hrestitution, -, hfriction, -⟩, -⟩ := stored_values_return Float
  have hr : Storable r := by
    refine ⟨⟨by decide, fun _ h => ?_⟩, trivial⟩
    cases h
    exact ⟨by decide, by decide⟩
  have hf : Storable f := ⟨⟨by decide, by decide, by decide, nofun⟩, trivial⟩
  have hrange : RestatedBy (.record [("capture_speed", .real 0), ("min_cor_speed", .real 2)])
      (.record range) :=
    .of_mem (by decide) (by simp [range])
  have hrwritten : encode (⟨0.5, some ⟨0, 2⟩⟩ : Restitution Float) =
      (.record [("min_cor", .real 0.5), ("speeds", .record [("capture_speed", .real 0),
        ("min_cor_speed", .real 2)])] : Document Float) := rfl
  have hlisted : (encode r).RestatedBy (.list [.real 0.5, .record range]) := by
    rw [hrwritten]
    exact .listed (.cons (.same _) (.cons hrange .nil))
  have hfwritten : encode (⟨1, 0.5, 0, none⟩ : DryFriction Float) = (.record [("mu_s", .real 1),
      ("mu_d", .real 0.5), ("mu_v", .real 0), ("transition_speed", .null)] : Document Float) := rfl
  have hnamed : (encode f).RestatedBy (.record friction) := by
    rw [hfwritten]
    exact .of_mem (by decide) (by simp [friction])
  exact ⟨hr, hrestitution.restated hr hlisted, hrestitution.returns hr, hf,
    hfriction.restated hf hnamed⟩

/-- What may be read and does not return: a number beyond the range of the scalar, which is
infinite as it is read and null as it is written. And what does not restate a value: a list in
the place of the named parts of a regime, or around a handle. -/
theorem restated_unread :
    (∃ r : ImpactRange Float32,
        decode (.list [.real 1e300, .int 1] : Document Float32) = some r ∧
        decode (encode r : Document Float32) = (none : Option (ImpactRange Float32))) ∧
      decode (.record [("Holding", .record [("reaction", .real 1.5)])] : Document Float) =
        some (Regime.holding (1.5 : Float)) ∧
      decode (.record [("Holding", .list [.real 1.5])] : Document Float) =
        (none : Option (Regime Float)) ∧
      decode (.int 7 : Document Float) = some (⟨7⟩ : Handle .body) ∧
      decode (.list [.int 7] : Document Float) = (none : Option (Handle .body)) :=
  ⟨⟨⟨1e300, 1⟩, rfl, rfl⟩, rfl, rfl, rfl, rfl⟩

end OneSided
