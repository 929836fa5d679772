import Mathlib.Data.List.Forall2
import OneSided.Document.Basic

/-! Documents that say the same. A record may be restated without its names, as the list of
its fields in order, or with its names, in any order and among other names, and a field that
is null may then be left out; all this holds for the records inside it as well. Main
statement: however a record is restated, the parts that are found for its names restate its
fields. -/

namespace OneSided.Document

variable {α : Type}

mutual

/-- Another way to write a document. -/
inductive RestatedBy : Document α → Document α → Prop
  | same (d : Document α) : RestatedBy d d
  /-- The fields of a record in order. -/
  | listed {fields : List (String × Document α)} {items : List (Document α)}
      (h : List.Forall₂ (fun f d => RestatedBy f.2 d) fields items) :
      RestatedBy (.record fields) (.list items)
  /-- A record in which every field is found under its name. -/
  | named {fields others : List (String × Document α)}
      (h : ∀ f ∈ fields, ShownBy f.2 (others.lookup f.1)) :
      RestatedBy (.record fields) (.record others)

/-- What may be found in the place of a field. -/
inductive ShownBy : Document α → Option (Document α) → Prop
  | given {d d' : Document α} (h : RestatedBy d d') : ShownBy d (some d')
  | omitted : ShownBy .null none

end

variable {d d' : Document α} {fields others : List (String × Document α)}

/-! ### Looking up -/

theorem lookup_of_mem (distinct : (fields.map Prod.fst).Nodup) {f : String × Document α}
    (hf : f ∈ fields) : fields.lookup f.1 = some f.2 := by
  induction fields with
  | nil => cases hf
  | cons g fields ih =>
    rw [List.map_cons, List.nodup_cons] at distinct
    rcases List.mem_cons.1 hf with rfl | hf
    · exact List.lookup_cons_self
    · have hne : f.1 ≠ g.1 := fun h => distinct.1 (h ▸ List.mem_map_of_mem hf)
      rw [List.lookup_cons, beq_false_of_ne hne]
      exact ih distinct.2 hf

/-- The fields may stand in any order and among others, and those may be left out that are
null. -/
theorem RestatedBy.of_mem (distinct : (others.map Prod.fst).Nodup)
    (h : ∀ f ∈ fields, f ∈ others ∨ f.2 = .null ∧ f.1 ∉ others.map Prod.fst) :
    RestatedBy (.record fields) (.record others) := by
  refine .named fun f hf => ?_
  rcases h f hf with hmem | ⟨hnull, habsent⟩
  · rw [lookup_of_mem distinct hmem]
    exact .given (.same f.2)
  · have hnone : others.lookup f.1 = none := by
      rw [List.lookup_eq_none_iff]
      intro g hg
      have hne : f.1 ≠ g.1 := fun he => habsent (he ▸ List.mem_map_of_mem hg)
      simpa using hne
    rw [hnull, hnone]
    exact .omitted

/-! ### What is found -/

/-- Nothing but null restates null. -/
theorem RestatedBy.eq_null (h : RestatedBy .null d) : d = .null := by
  cases h
  rfl

theorem RestatedBy.ne_null (h : RestatedBy d d') (hd : d ≠ .null) : d' ≠ .null := by
  cases h with
  | same => exact hd
  | listed | named => exact nofun

/-- However a record is restated, something is found for each of its names. -/
theorem RestatedBy.parts (h : RestatedBy (.record fields) d)
    (distinct : (fields.map Prod.fst).Nodup) :
    ∃ ps, d.parts (fields.map Prod.fst) = some ps ∧
      List.Forall₂ (fun f p => ShownBy f.2 p) fields ps := by
  have hnamed {others : List (String × Document α)}
      (h : ∀ f ∈ fields, ShownBy f.2 (others.lookup f.1)) :
      List.Forall₂ (fun f p => ShownBy f.2 p) fields
        ((fields.map Prod.fst).map fun n => others.lookup n) := by
    rw [List.map_map, List.forall₂_map_right_iff, List.forall₂_same]
    exact h
  cases h with
  | same =>
    refine ⟨_, rfl, hnamed fun f hf => ?_⟩
    rw [lookup_of_mem distinct hf]
    exact .given (.same f.2)
  | @listed _ items h =>
    refine ⟨items.map some, ?_, ?_⟩
    · rw [Document.parts, if_pos]
      rw [List.length_map, h.length_eq]
    · rw [List.forall₂_map_right_iff]
      exact h.imp fun _ _ h => .given h
  | named h => exact ⟨_, rfl, hnamed h⟩

end OneSided.Document
