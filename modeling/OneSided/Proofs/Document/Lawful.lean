import OneSided.Document.Calibration
import OneSided.Document.Geometry
import OneSided.Proofs.Document.Restated

/-! Values that come back from their documents. A scalar must be finite for that and a count
must fit a word; everything else follows part by part. Main statement: each stored type is
lawful, so that its values are read from every document that restates their own. -/

namespace OneSided

open Document Stored

variable {α τ : Type}

/-- Values with numbers in them. -/
class Numbered (τ : Type) where
  /-- All scalars in the value are finite. -/
  IsFinite : τ → Prop := fun _ => True
  /-- All counts in the value fit a word. -/
  Fits : τ → Prop := fun _ => True

open Numbered

structure Storable [Numbered τ] (x : τ) : Prop where
  finite : IsFinite x
  fits : Fits x

/-- Values of `τ` are read however their documents are restated, and no count is read that
does not fit a word. -/
class Lawful (τ α : Type) [Stored τ α] [Numbered τ] : Prop where
  encode_ne_null {x : τ} : IsFinite x → (encode x : Document α) ≠ .null
  decode_restated {x : τ} {d : Document α} :
    Storable x → (encode x).RestatedBy d → decode d = some x
  fits_of_decode {x : τ} {d : Document α} : decode d = some x → Fits x := by exact fun _ => trivial

/-! ### Parts -/

namespace Document

variable [Stored τ α] {p : Option (Document α)}

theorem perhaps_of_ne_null {d : Document α} (h : d ≠ .null) :
    (perhaps (some d) : Option (Option τ)) = (decode d).map some := by
  cases d with
  | null => exact absurd rfl h
  | bool | int | real | text | list | record => rfl

theorem required_eq_some_iff {x : τ} :
    required p = some x ↔ ∃ d, p = some d ∧ decode d = some x := by
  cases p <;> simp [required]

variable [Numbered τ] [Lawful τ α] {x : τ}

theorem required_of_shown (h : ShownBy (encode x : Document α) p) (hx : Storable x) :
    required p = some x := by
  have hne : (encode x : Document α) ≠ .null := Lawful.encode_ne_null hx.finite
  generalize hd : (encode x : Document α) = d at h hne
  cases h with
  | given h => exact Lawful.decode_restated hx (hd ▸ h)
  | omitted => exact absurd rfl hne

theorem perhaps_of_shown {o : Option τ} (h : ShownBy (ofOption o : Document α) p)
    (ho : ∀ x, o = some x → Storable x) : perhaps p = some o := by
  cases o with
  | none =>
    change ShownBy .null p at h
    generalize hd : (null : Document α) = d at h
    cases h with
    | given h =>
      cases hd
      rw [h.eq_null]
      rfl
    | omitted => rfl
  | some x =>
    have hne : (encode x : Document α) ≠ .null := Lawful.encode_ne_null (ho x rfl).finite
    change ShownBy (encode x) p at h
    generalize hd : (encode x : Document α) = d at h hne
    cases h with
    | given h =>
      rw [perhaps_of_ne_null (h.ne_null hne), Lawful.decode_restated (ho x rfl) (hd ▸ h)]
      rfl
    | omitted => exact absurd rfl hne

theorem fits_of_required (h : required p = some x) : Fits x := by
  obtain ⟨d, -, hd⟩ := required_eq_some_iff.1 h
  exact Lawful.fits_of_decode hd

/-! ### Counts and handles -/

theorem decodeNat_eq_some_iff {n limit : Nat} {d : Document α} :
    decodeNat limit d = some n ↔ d = .int n ∧ n < limit := by
  constructor
  · intro h
    unfold decodeNat at h
    split at h
    · rename_i m
      split at h
      · rename_i hm
        cases h
        exact ⟨congrArg int (Int.toNat_of_nonneg hm.1).symm, (Int.toNat_lt hm.1).2 hm.2⟩
      · cases h
    · cases h
  · rintro ⟨rfl, h⟩
    exact if_pos ⟨Int.natCast_nonneg n, Int.ofNat_lt.2 h⟩

end Document

instance : Numbered Nat where
  Fits n := n < UInt64.size

instance : Lawful Nat α where
  encode_ne_null _ := nofun
  decode_restated hn h := by
    cases h
    exact decodeNat_eq_some_iff.2 ⟨rfl, hn.fits⟩
  fits_of_decode h := (decodeNat_eq_some_iff.1 h).2

/-- A handle is read from its number alone. -/
theorem Handle.decode_eq_some_iff {k : Kind} {h : Handle k} {d : Document α} :
    decode d = some h ↔ d = .int h.toNat := by
  change (decodeNat UInt32.size d).map Handle.ofNat = some h ↔ _
  rw [Option.map_eq_some_iff]
  constructor
  · rintro ⟨n, hn, rfl⟩
    obtain ⟨rfl, hlt⟩ := decodeNat_eq_some_iff.1 hn
    rw [Handle.toNat_ofNat hlt]
  · rintro rfl
    exact ⟨h.toNat, decodeNat_eq_some_iff.2 ⟨rfl, h.raw.toNat_lt⟩, h.ofNat_toNat⟩

instance {k : Kind} : Numbered (Handle k) where

instance {k : Kind} : Lawful (Handle k) α where
  encode_ne_null _ := nofun
  decode_restated {x d} _ h := by
    cases h
    exact Handle.decode_eq_some_iff.2 rfl

/-! ### Cases without parts -/

instance : Numbered Sense where

instance : Lawful Sense α where
  encode_ne_null {s} _ := by cases s <;> exact nofun
  decode_restated {s d} _ h := by cases s <;> cases h <;> rfl

instance : Numbered Stage where

instance : Lawful Stage α where
  encode_ne_null _ := nofun
  decode_restated {s d} _ h := by
    cases h
    cases s <;> rfl

/-! ### Bodies -/

instance : Numbered Mobilizer where
  Fits m := Fits m.first ∧ Fits m.count

instance : Lawful Mobilizer α where
  encode_ne_null _ := nofun
  decode_restated {m d} hm h := by
    obtain ⟨ps, hps, h⟩ := h.parts (by simp)
    obtain _ | ⟨hh, _ | ⟨hf, _ | ⟨hc, _ | _⟩⟩⟩ := h
    have hh := required_of_shown hh ⟨trivial, trivial⟩
    have hf := required_of_shown hf ⟨trivial, hm.fits.1⟩
    have hc := required_of_shown hc ⟨trivial, hm.fits.2⟩
    simp only [List.map] at hps
    simp [decode, hps, hh, hf, hc]
  fits_of_decode {m d} h := by
    obtain ⟨ps, -, h⟩ := Option.bind_eq_some_iff.1 h
    split at h
    · obtain ⟨_, -, h⟩ := Option.bind_eq_some_iff.1 h
      obtain ⟨_, hf, h⟩ := Option.bind_eq_some_iff.1 h
      obtain ⟨_, hc, h⟩ := Option.bind_eq_some_iff.1 h
      cases h
      exact ⟨fits_of_required hf, fits_of_required hc⟩
    · cases h

/-! ### Numbers -/

variable [Scalar α]

instance : Numbered α where
  IsFinite x := Scalar.isFinite x = true

instance (x : α) : Decidable (IsFinite x) := inferInstanceAs (Decidable (Scalar.isFinite x = true))

theorem encode_of_isFinite {x : α} (hx : IsFinite x) : (encode x : Document α) = .real x :=
  if_pos hx

instance : Lawful α α where
  encode_ne_null hx := by
    rw [encode_of_isFinite hx]
    exact nofun
  decode_restated hx h := by
    rw [encode_of_isFinite hx.finite] at h
    cases h
    rfl

theorem Document.numbers_encode {xs : List α} (h : ∀ x ∈ xs, IsFinite x) :
    numbers (.list (xs.map encode)) = some xs := by
  change (xs.map encode).mapM decode = some xs
  induction xs with
  | nil => rfl
  | cons x xs ih =>
    have hx : decode (encode x : Document α) = some x := by
      rw [encode_of_isFinite (h x List.mem_cons_self)]
      rfl
    rw [List.map_cons, List.mapM_cons, hx, ih fun y hy => h y (List.mem_cons_of_mem x hy)]
    rfl

instance : Numbered (Vec3 α) where
  IsFinite v := ∀ x ∈ [v.x, v.y, v.z], IsFinite x

instance : Lawful (Vec3 α) α where
  encode_ne_null _ := nofun
  decode_restated {v d} hv h := by
    cases h
    have hnumbers : numbers (encode v : Document α) = some [v.x, v.y, v.z] :=
      numbers_encode hv.finite
    simp only [decode, hnumbers]

instance : Numbered (Rotation α) where
  IsFinite r := ∀ x ∈ [r.i, r.j, r.k, r.w], IsFinite x

instance : Lawful (Rotation α) α where
  encode_ne_null _ := nofun
  decode_restated {r d} hr h := by
    cases h
    have hnumbers : numbers (encode r : Document α) = some [r.i, r.j, r.k, r.w] :=
      numbers_encode hr.finite
    simp only [decode, hnumbers]

/-! ### Calibrations -/

instance : Numbered (ImpactRange α) where
  IsFinite r := IsFinite r.capture ∧ IsFinite r.plateau

instance : Lawful (ImpactRange α) α where
  encode_ne_null _ := nofun
  decode_restated {r d} hr h := by
    obtain ⟨ps, hps, h⟩ := h.parts (by simp)
    obtain _ | ⟨hc, _ | ⟨hp, _ | _⟩⟩ := h
    have hc := required_of_shown hc ⟨hr.finite.1, trivial⟩
    have hp := required_of_shown hp ⟨hr.finite.2, trivial⟩
    simp only [List.map] at hps
    simp [decode, hps, hc, hp]

instance : Numbered (Restitution α) where
  IsFinite r := IsFinite r.least ∧ ∀ range, r.range = some range → IsFinite range

instance : Lawful (Restitution α) α where
  encode_ne_null _ := nofun
  decode_restated {r d} hr h := by
    obtain ⟨ps, hps, h⟩ := h.parts (by simp)
    obtain _ | ⟨hl, _ | ⟨hs, _ | _⟩⟩ := h
    have hl := required_of_shown hl ⟨hr.finite.1, trivial⟩
    have hs := perhaps_of_shown hs fun range h => ⟨hr.finite.2 range h, trivial⟩
    simp only [List.map] at hps
    simp [decode, hps, hl, hs]

instance : Numbered (DryFriction α) where
  IsFinite f := IsFinite f.static ∧ IsFinite f.dynamic ∧ IsFinite f.viscous ∧
    ∀ speed, f.transition = some speed → IsFinite speed

instance : Lawful (DryFriction α) α where
  encode_ne_null _ := nofun
  decode_restated {f d} hf h := by
    obtain ⟨ps, hps, h⟩ := h.parts (by simp)
    obtain _ | ⟨hs, _ | ⟨hd, _ | ⟨hv, _ | ⟨ht, _ | _⟩⟩⟩⟩ := h
    obtain ⟨hstatic, hdynamic, hviscous, htransition⟩ := hf.finite
    have hs := required_of_shown hs ⟨hstatic, trivial⟩
    have hd := required_of_shown hd ⟨hdynamic, trivial⟩
    have hv := required_of_shown hv ⟨hviscous, trivial⟩
    have ht := perhaps_of_shown ht fun speed h => ⟨htransition speed h, trivial⟩
    simp only [List.map] at hps
    simp [decode, hps, hs, hd, hv, ht]

instance : Numbered (Thresholds α) where
  IsFinite t := IsFinite t.capture ∧ IsFinite t.plateau ∧ IsFinite t.transition

instance : Lawful (Thresholds α) α where
  encode_ne_null _ := nofun
  decode_restated {t d} ht h := by
    obtain ⟨ps, hps, h⟩ := h.parts (by simp)
    obtain _ | ⟨hc, _ | ⟨hp, _ | ⟨ht', _ | _⟩⟩⟩ := h
    obtain ⟨hcapture, hplateau, htransition⟩ := ht.finite
    have hc := required_of_shown hc ⟨hcapture, trivial⟩
    have hp := required_of_shown hp ⟨hplateau, trivial⟩
    have ht' := required_of_shown ht' ⟨htransition, trivial⟩
    simp only [List.map] at hps
    simp [decode, hps, hc, hp, ht']

/-! ### Motions, half spaces and balls -/

instance : Numbered (Pose α) where
  IsFinite p := IsFinite p.rotation ∧ IsFinite p.offset

instance : Lawful (Pose α) α where
  encode_ne_null _ := nofun
  decode_restated {p d} hp h := by
    obtain ⟨ps, hps, h⟩ := h.parts (by simp)
    obtain _ | ⟨hr, _ | ⟨ht, _ | _⟩⟩ := h
    have hr := required_of_shown hr ⟨hp.finite.1, trivial⟩
    have ht := required_of_shown ht ⟨hp.finite.2, trivial⟩
    simp only [List.map] at hps
    simp [decode, hps, hr, ht]

instance : Numbered (Motion α) where
  IsFinite m := IsFinite m.pose ∧ IsFinite m.velocity ∧ IsFinite m.spin ∧
    IsFinite m.acceleration ∧ IsFinite m.spinRate

instance : Lawful (Motion α) α where
  encode_ne_null _ := nofun
  decode_restated {m d} hm h := by
    obtain ⟨ps, hps, h⟩ := h.parts (by simp)
    obtain _ | ⟨hp, _ | ⟨hv, _ | ⟨hw, _ | ⟨ha, _ | ⟨hb, _ | _⟩⟩⟩⟩⟩ := h
    obtain ⟨hpose, hvelocity, hspin, hacceleration, hspinRate⟩ := hm.finite
    have hp := required_of_shown hp ⟨hpose, trivial⟩
    have hv := required_of_shown hv ⟨hvelocity, trivial⟩
    have hw := required_of_shown hw ⟨hspin, trivial⟩
    have ha := required_of_shown ha ⟨hacceleration, trivial⟩
    have hb := required_of_shown hb ⟨hspinRate, trivial⟩
    simp only [List.map] at hps
    simp [decode, hps, hp, hv, hw, ha, hb]

instance : Numbered (HalfSpace α) where
  IsFinite p := IsFinite p.frame ∧ IsFinite p.height

instance : Lawful (HalfSpace α) α where
  encode_ne_null _ := nofun
  decode_restated {p d} hp h := by
    obtain ⟨ps, hps, h⟩ := h.parts (by simp)
    obtain _ | ⟨hf, _ | ⟨hh, _ | _⟩⟩ := h
    have hf := required_of_shown hf ⟨hp.finite.1, trivial⟩
    have hh := required_of_shown hh ⟨hp.finite.2, trivial⟩
    simp only [List.map] at hps
    simp [decode, hps, hf, hh]

instance : Numbered (Ball α) where
  IsFinite g := IsFinite g.plane ∧ IsFinite g.centre ∧ IsFinite g.radius

instance : Lawful (Ball α) α where
  encode_ne_null _ := nofun
  decode_restated {g d} hg h := by
    obtain ⟨ps, hps, h⟩ := h.parts (by simp)
    obtain _ | ⟨hb, _ | ⟨hp, _ | ⟨hf, _ | ⟨hc, _ | ⟨hr, _ | _⟩⟩⟩⟩⟩ := h
    obtain ⟨hplane, hcentre, hradius⟩ := hg.finite
    have hb := required_of_shown hb ⟨trivial, trivial⟩
    have hp := required_of_shown hp ⟨hplane, trivial⟩
    have hf := required_of_shown hf ⟨trivial, trivial⟩
    have hc := required_of_shown hc ⟨hcentre, trivial⟩
    have hr := required_of_shown hr ⟨hradius, trivial⟩
    simp only [List.map] at hps
    simp [decode, hps, hb, hp, hf, hc, hr]

/-! ### Locks -/

instance : Numbered (CoordinateLock α) where
  IsFinite l := IsFinite l.value
  Fits l := Fits l.place

instance : Lawful (CoordinateLock α) α where
  encode_ne_null _ := nofun
  decode_restated {l d} hl h := by
    obtain ⟨ps, hps, h⟩ := h.parts (by simp)
    obtain _ | ⟨hc, _ | ⟨hp, _ | ⟨hv, _ | _⟩⟩⟩ := h
    have hc := required_of_shown hc ⟨trivial, trivial⟩
    have hp := required_of_shown hp ⟨trivial, hl.fits⟩
    have hv := required_of_shown hv ⟨hl.finite, trivial⟩
    simp only [List.map] at hps
    simp [decode, hps, hc, hp, hv]
  fits_of_decode {l d} h := by
    obtain ⟨ps, -, h⟩ := Option.bind_eq_some_iff.1 h
    split at h
    · obtain ⟨_, -, h⟩ := Option.bind_eq_some_iff.1 h
      obtain ⟨_, hp, h⟩ := Option.bind_eq_some_iff.1 h
      obtain ⟨_, -, h⟩ := Option.bind_eq_some_iff.1 h
      cases h
      have hplace := fits_of_required hp
      exact hplace
    · cases h

instance : Numbered (SpeedLock α) where
  IsFinite l := IsFinite l.speed
  Fits l := Fits l.place

instance : Lawful (SpeedLock α) α where
  encode_ne_null _ := nofun
  decode_restated {l d} hl h := by
    obtain ⟨ps, hps, h⟩ := h.parts (by simp)
    obtain _ | ⟨hc, _ | ⟨hp, _ | ⟨hv, _ | _⟩⟩⟩ := h
    have hc := required_of_shown hc ⟨trivial, trivial⟩
    have hp := required_of_shown hp ⟨trivial, hl.fits⟩
    have hv := required_of_shown hv ⟨hl.finite, trivial⟩
    simp only [List.map] at hps
    simp [decode, hps, hc, hp, hv]
  fits_of_decode {l d} h := by
    obtain ⟨ps, -, h⟩ := Option.bind_eq_some_iff.1 h
    split at h
    · obtain ⟨_, -, h⟩ := Option.bind_eq_some_iff.1 h
      obtain ⟨_, hp, h⟩ := Option.bind_eq_some_iff.1 h
      obtain ⟨_, -, h⟩ := Option.bind_eq_some_iff.1 h
      cases h
      have hplace := fits_of_required hp
      exact hplace
    · cases h

instance : Numbered (GlidingBall α) where
  IsFinite l := IsFinite l.ball

instance : Lawful (GlidingBall α) α where
  encode_ne_null _ := nofun
  decode_restated {l d} hl h := by
    obtain ⟨ps, hps, h⟩ := h.parts (by simp)
    obtain _ | ⟨hc, _ | ⟨hb, _ | _⟩⟩ := h
    have hc := required_of_shown hc ⟨trivial, trivial⟩
    have hb := required_of_shown hb ⟨hl.finite, trivial⟩
    simp only [List.map] at hps
    simp [decode, hps, hc, hb]

instance : Numbered (StickingBall α) where
  IsFinite l := IsFinite l.ball

instance : Lawful (StickingBall α) α where
  encode_ne_null _ := nofun
  decode_restated {l d} hl h := by
    obtain ⟨ps, hps, h⟩ := h.parts (by simp)
    obtain _ | ⟨hc, _ | ⟨hb, _ | _⟩⟩ := h
    have hc := required_of_shown hc ⟨trivial, trivial⟩
    have hb := required_of_shown hb ⟨hl.finite, trivial⟩
    simp only [List.map] at hps
    simp [decode, hps, hc, hb]

end OneSided
