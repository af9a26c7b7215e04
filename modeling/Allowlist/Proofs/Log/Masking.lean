import Allowlist.Proofs.Log.Redaction
import Allowlist.Proofs.Position
import Mathlib.Data.List.DropRight

namespace Allowlist.Log

def major (build : String) : String := String.ofList (build.toList.takeWhile (· ≠ '.'))

theorem Mask.apply_build (s : String) :
    Mask.build.apply s = if major s = "" then "***" else major s ++ ".***" := by
  obtain ⟨ps, h⟩ := Text.exists_cut_eq '.' s.toList
  have hpieces : Text.pieces '.' s = major s :: ps.map String.ofList := by
    rw [Text.pieces, h]
    rfl
  rw [Mask.apply, hpieces]
  by_cases hs : major s = ""
  · simp [hs]
  · simp [hs]

def Mask.Agree : Mask → String → String → Prop
  | .id _, s, t =>
    (8 < s.length ↔ 8 < t.length) ∧ (8 < s.length → s.toList.rtake 4 = t.toList.rtake 4)
  | .build, s, t => major s = major t

/-- Values under a masked key of which the log may tell the same: both are missing, or none is and
both have a text. -/
inductive Mask.ShowAlike (m : Mask) : Value → Value → Prop
  | missing : ShowAlike m .null .null
  | present {v w s t} : v ≠ .null → w ≠ .null → v.display = .ok s → w.display = .ok t →
      m.Agree s t → ShowAlike m v w

/-- Values that differ only under masked keys, by `R`, in a record or in records that redaction goes
into: under an open key, or as elements of a list under one. -/
inductive VaryMasked (R : Mask → Value → Value → Prop) : Value → Value → Prop
  | same {v} : VaryMasked R v v
  | masked {s m v w es fs} : mask? s = some m → R m v w → VaryMasked R (.map es) (.map fs) →
      VaryMasked R (.map ((.text s, v) :: es)) (.map ((.text s, w) :: fs))
  | entry {k v w es fs} : IsOpen k → VaryMasked R v w → VaryMasked R (.map es) (.map fs) →
      VaryMasked R (.map ((k, v) :: es)) (.map ((k, w) :: fs))
  | kept {e es fs} : VaryMasked R (.map es) (.map fs) →
      VaryMasked R (.map (e :: es)) (.map (e :: fs))
  | element {es fs vs ws} : VaryMasked R (.map es) (.map fs) → VaryMasked R (.list vs) (.list ws) →
      VaryMasked R (.list (.map es :: vs)) (.list (.map fs :: ws))
  | skipped {v vs ws} : VaryMasked R (.list vs) (.list ws) →
      VaryMasked R (.list (v :: vs)) (.list (v :: ws))

/-- The records that redaction comes to, by their positions. -/
inductive Recursed : Value → Position → Entries → Prop
  | here {es} : Recursed (.map es) [] es
  | entry {k v es pos fs} : IsOpen k → (k, v) ∈ es → Recursed v pos fs →
      Recursed (.map es) (.key k :: pos) fs
  | element {vs es i pos fs} : vs[i]? = some (.map es) → Recursed (.map es) pos fs →
      Recursed (.list vs) (.index i :: pos) fs

theorem idTail_eq (cs : List Char) : idTail cs = if 8 < cs.length then cs.rtake 4 else [] := rfl

theorem idTail_eq_iff {cs ds : List Char} : idTail cs = idTail ds ↔
    (8 < cs.length ↔ 8 < ds.length) ∧ (8 < cs.length → cs.rtake 4 = ds.rtake 4) := by
  have tail_ne {es : List Char} (h : 8 < es.length) : es.rtake 4 ≠ [] := by
    simp only [List.rtake, ne_eq, List.drop_eq_nil_iff]
    omega
  rw [idTail_eq, idTail_eq]
  by_cases hc : 8 < cs.length
  · by_cases hd : 8 < ds.length
    · simp [hc, hd]
    · simp [hc, hd, tail_ne hc]
  · by_cases hd : 8 < ds.length
    · simp [hc, hd, (tail_ne hd).symm]
    · simp [hc, hd]

theorem apply_build_eq_iff {s t : String} :
    Mask.build.apply s = Mask.build.apply t ↔ major s = major t := by
  have covered (r : String) : "***" ≠ r ++ ".***" := by
    intro h
    have dot : '.' ∈ "***".toList := by
      rw [h]
      simp
    exact absurd dot (by decide)
  rw [Mask.apply_build, Mask.apply_build]
  by_cases hs : major s = ""
  · by_cases ht : major t = ""
    · simp [hs, ht]
    · rw [if_pos hs, if_neg ht, hs]
      exact ⟨fun h => absurd h (covered _), fun h => absurd h.symm ht⟩
  · by_cases ht : major t = ""
    · rw [if_neg hs, if_pos ht, ht]
      exact ⟨fun h => absurd h.symm (covered _), fun h => absurd h hs⟩
    · rw [if_neg hs, if_neg ht, String.append_left_inj]

theorem Mask.apply_eq_iff {m : Mask} {s t : String} : m.apply s = m.apply t ↔ m.Agree s t := by
  cases m with
  | id label =>
    rw [Mask.apply, Mask.apply, String.append_right_inj, String.ofList_inj, idTail_eq_iff,
      String.length_toList, String.length_toList, Agree]
  | build => exact apply_build_eq_iff

theorem not_isSecretName_of_mask? {s : String} {m : Mask} (h : mask? s = some m) :
    isSecretName s = false ∧ s ∉ payloadKeys := by
  unfold mask? at h
  split at h
  · decide +kernel
  · decide +kernel
  · decide +kernel
  · decide +kernel
  · cases h

theorem keyClass_of_mask? {s : String} {m : Mask} (h : mask? s = some m) :
    keyClass (.text s) = .masked m := by
  obtain ⟨hsecret, hpayload⟩ := not_isSecretName_of_mask? h
  simp [keyClass, hsecret, hpayload, h]

def Mask.cover (m : Mask) : Value → Except Failure Value
  | .null => .ok .null
  | v => v.display.map fun s => .text (m.apply s)

theorem Mask.cover_of_ne {m : Mask} {v : Value} (h : v ≠ .null) :
    m.cover v = v.display.map fun s => .text (m.apply s) := by
  cases v with
  | null => exact absurd rfl h
  | _ => rfl

theorem Mask.cover_ok {m : Mask} {v x : Value} (hv : v ≠ .null) :
    m.cover v = .ok x ↔ ∃ s, v.display = .ok s ∧ .text (m.apply s) = x := by
  rw [cover_of_ne hv, exceptMap_ok]

theorem Mask.ShowAlike.cover_eq {m : Mask} {v w : Value} (h : m.ShowAlike v w) :
    m.cover v = m.cover w := by
  cases h with
  | missing => rfl
  | present hv hw hs ht hm =>
    rw [cover_of_ne hv, cover_of_ne hw, hs, ht]
    simp [Except.map, apply_eq_iff.2 hm]

theorem Mask.showAlike_of_cover {m : Mask} {v w x : Value} (hv : m.cover v = .ok x)
    (hw : m.cover w = .ok x) : m.ShowAlike v w := by
  by_cases hnv : v = .null
  · rw [hnv] at hv ⊢
    cases hv
    by_cases hnw : w = .null
    · rw [hnw]
      exact .missing
    · obtain ⟨t, -, ht⟩ := (cover_ok hnw).1 hw
      cases ht
  · obtain ⟨s, hs, rfl⟩ := (cover_ok hnv).1 hv
    by_cases hnw : w = .null
    · rw [hnw] at hw
      cases hw
    · obtain ⟨t, ht, heq⟩ := (cover_ok hnw).1 hw
      rw [Value.leaf.injEq, Scalar.text.injEq] at heq
      exact .present hnv hnw hs ht (apply_eq_iff.1 heq.symm)

theorem cover?_masked {k : Key} {m : Mask} (h : keyClass k = .masked m) (v : Value) :
    cover? k v = some (m.cover v) := by
  cases v with
  | null => simp [cover?, h, Mask.cover]
  | _ => simp [cover?, h, Mask.cover]

theorem redactEntry_masked {s : String} {m : Mask} (h : mask? s = some m) (v : Value) :
    redactEntry (.text s, v) = (m.cover v).map (.text s, ·) := by
  rw [redactEntry, cover?_masked (keyClass_of_mask? h), Option.getD_some]

theorem redactInside_cons (e : Key × Value) (es : Entries) :
    redactInside (.map (e :: es)) = (do
      let e ← redactEntry e
      let es ← es.mapM redactEntry
      .ok (.map (e :: es))) := by
  rw [redactInside_map, List.mapM_cons]
  cases redactEntry e with
  | error => rfl
  | ok e => cases es.mapM redactEntry <;> rfl

theorem redactInside_list_cons (v : Value) (vs : List Value) :
    redactInside (.list (v :: vs)) = (do
      let v ← redactElement v
      let vs ← vs.mapM redactElement
      .ok (.list (v :: vs))) := by
  rw [redactInside_list, List.mapM_cons]
  cases redactElement v with
  | error => rfl
  | ok v => cases vs.mapM redactElement <;> rfl

theorem mapM_eq_of_inside {es fs : Entries}
    (h : redactInside (.map es) = redactInside (.map fs)) :
    es.mapM redactEntry = fs.mapM redactEntry := by
  rw [redactInside_map, redactInside_map] at h
  exact (exceptMap_inj fun _ _ => Value.map.inj).1 h

theorem mapM_eq_of_inside_list {vs ws : List Value}
    (h : redactInside (.list vs) = redactInside (.list ws)) :
    vs.mapM redactElement = ws.mapM redactElement := by
  rw [redactInside_list, redactInside_list] at h
  exact (exceptMap_inj fun _ _ => Value.list.inj).1 h

theorem redactInside_cons_ok {e : Key × Value} {es : Entries} {x : Value} :
    redactInside (.map (e :: es)) = .ok x ↔
      ∃ f fs, redactEntry e = .ok f ∧ redactInside (.map es) = .ok (.map fs) ∧
        x = .map (f :: fs) := by
  rw [redactInside_cons, redactInside_map]
  constructor
  · intro h
    obtain ⟨f, hf, h⟩ := exceptBind_ok.1 h
    obtain ⟨fs, hfs, h⟩ := exceptBind_ok.1 h
    cases h
    exact ⟨f, fs, hf, exceptMap_ok.2 ⟨fs, hfs, rfl⟩, rfl⟩
  · rintro ⟨f, fs, hf, h, rfl⟩
    obtain ⟨_, hfs, heq⟩ := exceptMap_ok.1 h
    cases heq
    rw [hf, exceptOk_bind, hfs, exceptOk_bind]

theorem redactInside_list_cons_ok {v : Value} {vs : List Value} {x : Value} :
    redactInside (.list (v :: vs)) = .ok x ↔
      ∃ w ws, redactElement v = .ok w ∧ redactInside (.list vs) = .ok (.list ws) ∧
        x = .list (w :: ws) := by
  rw [redactInside_list_cons, redactInside_list]
  constructor
  · intro h
    obtain ⟨w, hw, h⟩ := exceptBind_ok.1 h
    obtain ⟨ws, hws, h⟩ := exceptBind_ok.1 h
    cases h
    exact ⟨w, ws, hw, exceptMap_ok.2 ⟨ws, hws, rfl⟩, rfl⟩
  · rintro ⟨w, ws, hw, h, rfl⟩
    obtain ⟨_, hws, heq⟩ := exceptMap_ok.1 h
    cases heq
    rw [hw, exceptOk_bind, hws, exceptOk_bind]

theorem redactEntry_open_ok {k : Key} (h : IsOpen k) {v : Value} {e : Key × Value} :
    redactEntry (k, v) = .ok e ↔ ∃ x, redactInside v = .ok x ∧ (k, x) = e := by
  rw [redactEntry_open h, exceptMap_ok]

theorem VaryMasked.redactInside_eq {v w : Value} (h : VaryMasked Mask.ShowAlike v w) :
    redactInside v = redactInside w := by
  induction h with
  | same => rfl
  | masked hm hr _ ih =>
    rw [redactInside_cons, redactInside_cons, redactEntry_masked hm, redactEntry_masked hm,
      hr.cover_eq, mapM_eq_of_inside ih]
  | entry hk _ _ ihv ih =>
    rw [redactInside_cons, redactInside_cons, redactEntry_open hk, redactEntry_open hk, ihv,
      mapM_eq_of_inside ih]
  | kept _ ih => rw [redactInside_cons, redactInside_cons, mapM_eq_of_inside ih]
  | @element es fs vs ws _ _ ihe ih =>
    have element : redactElement (.map es) = redactElement (.map fs) := ihe
    rw [redactInside_list_cons, redactInside_list_cons, element, mapM_eq_of_inside_list ih]
  | skipped _ ih => rw [redactInside_list_cons, redactInside_list_cons, mapM_eq_of_inside_list ih]

theorem VaryMasked.showAlike {R : Mask → Value → Value → Prop} {v w x : Value}
    (h : VaryMasked R v w) (hv : redactInside v = .ok x) (hw : redactInside w = .ok x) :
    VaryMasked Mask.ShowAlike v w := by
  induction h generalizing x with
  | same => exact .same
  | masked hm _ _ ih =>
    obtain ⟨e, es, he, hes, rfl⟩ := redactInside_cons_ok.1 hv
    obtain ⟨f, fs, hf, hfs, heq⟩ := redactInside_cons_ok.1 hw
    cases heq
    rw [redactEntry_masked hm, exceptMap_ok] at he hf
    obtain ⟨y, hy, rfl⟩ := he
    obtain ⟨z, hz, heq⟩ := hf
    cases heq
    exact .masked hm (Mask.showAlike_of_cover hy hz) (ih hes hfs)
  | entry hk _ _ ihv ih =>
    obtain ⟨e, es, he, hes, rfl⟩ := redactInside_cons_ok.1 hv
    obtain ⟨f, fs, hf, hfs, heq⟩ := redactInside_cons_ok.1 hw
    cases heq
    obtain ⟨y, hy, rfl⟩ := (redactEntry_open_ok hk).1 he
    obtain ⟨z, hz, heq⟩ := (redactEntry_open_ok hk).1 hf
    cases heq
    exact .entry hk (ihv hy hz) (ih hes hfs)
  | kept _ ih =>
    obtain ⟨e, es, -, hes, rfl⟩ := redactInside_cons_ok.1 hv
    obtain ⟨f, fs, -, hfs, heq⟩ := redactInside_cons_ok.1 hw
    cases heq
    exact .kept (ih hes hfs)
  | element _ _ ihe ih =>
    obtain ⟨y, ys, hy, hys, rfl⟩ := redactInside_list_cons_ok.1 hv
    obtain ⟨z, zs, hz, hzs, heq⟩ := redactInside_list_cons_ok.1 hw
    cases heq
    exact .element (ihe hy hz) (ih hys hzs)
  | skipped _ ih =>
    obtain ⟨y, ys, -, hys, rfl⟩ := redactInside_list_cons_ok.1 hv
    obtain ⟨z, zs, -, hzs, heq⟩ := redactInside_list_cons_ok.1 hw
    cases heq
    exact .skipped (ih hys hzs)

theorem key_of_redactEntry {e f : Key × Value} (h : redactEntry e = .ok f) : f.1 = e.1 := by
  obtain ⟨x, -, rfl⟩ := exceptMap_ok.1 h
  rfl

theorem keys_redact {es fs : Entries} (h : redact es = .ok fs) : fs.map (·.1) = es.map (·.1) := by
  rw [redact_eq_mapM, mapM_ok] at h
  rw [← List.forall₂_eq_eq_eq, List.forall₂_map_left_iff, List.forall₂_map_right_iff]
  exact h.flip.imp fun _ _ he => key_of_redactEntry he

theorem Recursed.holds {v x : Value} {pos : Position} {gs : Entries} (h : Recursed v pos gs)
    (hv : redactInside v = .ok x) : ∃ hs, redact gs = .ok hs ∧ x.Holds pos (.map hs) := by
  induction h generalizing x with
  | here =>
    obtain ⟨hs, hgs, rfl⟩ := exceptMap_ok.1 hv
    exact ⟨hs, hgs, .here⟩
  | @entry k v es pos gs hk he _ ih =>
    rw [redactInside_map, exceptMap_ok] at hv
    obtain ⟨fs, hfs, rfl⟩ := hv
    obtain ⟨f, hf, hef⟩ := (mapM_ok.1 hfs).exists_right he
    obtain ⟨y, hy, rfl⟩ := (redactEntry_open_ok hk).1 hef
    obtain ⟨hs, hgs, hold⟩ := ih hy
    exact ⟨hs, hgs, .entry hf hold⟩
  | @element vs es i pos gs hi _ ih =>
    rw [redactInside_list, exceptMap_ok] at hv
    obtain ⟨ws, hws, rfl⟩ := hv
    obtain ⟨y, hy, hey⟩ := (mapM_ok.1 hws).exists_getElem? hi
    obtain ⟨hs, hgs, hold⟩ := ih hey
    exact ⟨hs, hgs, .item rfl hy hold⟩

/-- Every masked value in a record that redaction comes to has a text, unless it is missing. -/
def Writable (v : Value) : Prop :=
  ∀ pos gs, Recursed v pos gs → ∀ s m w, (.text s, w) ∈ gs → mask? s = some m → w ≠ .null →
    ∃ t, w.display = .ok t

theorem mask?_of_keyClass {k : Key} {m : Mask} (h : keyClass k = .masked m) :
    ∃ s, k = .text s ∧ mask? s = some m := by
  unfold keyClass at h
  split at h
  · next s =>
    split at h
    · cases h
    · split at h
      · cases h
      · split at h
        · next hm =>
          cases h
          exact ⟨s, rfl, hm⟩
        · cases h
  · cases h

theorem exists_cover {k : Key} {v : Value} {x : Except Failure Value}
    (hv : ∀ s m, k = .text s → mask? s = some m → v ≠ .null → ∃ t, v.display = .ok t)
    (h : cover? k v = some x) : ∃ y, x = .ok y := by
  cases hk : keyClass k with
  | secret =>
    rw [cover?_secret hk] at h
    cases h
    exact ⟨_, rfl⟩
  | opened =>
    rw [cover?_open hk] at h
    cases h
  | payload =>
    by_cases hnull : v = .null
    · simp only [hnull, cover?, hk, Option.some.injEq] at h
      exact ⟨_, h.symm⟩
    · rw [cover?_payload hk hnull] at h
      cases h
      exact ⟨_, rfl⟩
  | masked m =>
    rw [cover?_masked hk] at h
    cases h
    obtain ⟨s, rfl, hm⟩ := mask?_of_keyClass hk
    by_cases hnull : v = .null
    · rw [hnull]
      exact ⟨_, rfl⟩
    · obtain ⟨t, ht⟩ := hv s m rfl hm hnull
      exact ⟨_, (Mask.cover_ok hnull).2 ⟨t, ht, rfl⟩⟩

theorem isOpen_of_cover? {k : Key} {v : Value} (h : cover? k v = none) : IsOpen k := by
  cases hk : keyClass k with
  | opened => exact hk
  | secret =>
    rw [cover?_secret hk] at h
    cases h
  | payload => cases v <;> simp [cover?, hk] at h
  | masked m =>
    rw [cover?_masked hk] at h
    cases h

theorem Writable.exists_redactInside {v : Value} (h : Writable v) :
    ∃ x, redactInside v = .ok x := by
  induction v using Value.induction with
  | null => exact ⟨_, rfl⟩
  | leaf s => exact ⟨_, rfl⟩
  | seq v vs hv ih =>
    obtain rfl | rfl := Value.items?_eq_some.1 hv
    · have elements : ∃ ws, vs.mapM redactElement = .ok ws := by
        rw [exists_mapM_iff]
        intro w hw
        cases w with
        | map es =>
          obtain ⟨i, hi⟩ := List.getElem?_of_mem hw
          exact ih _ hw fun pos gs hgs => h (.index i :: pos) gs (.element hi hgs)
        | _ => exact ⟨_, rfl⟩
      obtain ⟨ws, hws⟩ := elements
      exact ⟨_, redactInside_list vs ▸ exceptMap_ok.2 ⟨ws, hws, rfl⟩⟩
    · exact ⟨_, rfl⟩
  | map es ih =>
    have entries : ∃ fs, es.mapM redactEntry = .ok fs := by
      rw [exists_mapM_iff]
      rintro ⟨k, w⟩ he
      cases hc : cover? k w with
      | some x =>
        obtain ⟨y, rfl⟩ := exists_cover
          (fun s m hk hm hnull => h [] es .here s m w (hk ▸ he) hm hnull) hc
        exact ⟨(k, y), by rw [redactEntry, hc]; rfl⟩
      | none =>
        have hk := isOpen_of_cover? hc
        obtain ⟨y, hy⟩ := ih _ he fun pos gs hgs => h (.key k :: pos) gs (.entry hk he hgs)
        exact ⟨_, (redactEntry_open_ok hk).2 ⟨y, hy, rfl⟩⟩
    obtain ⟨fs, hfs⟩ := entries
    exact ⟨_, redactInside_map es ▸ exceptMap_ok.2 ⟨fs, hfs, rfl⟩⟩

/-- Records that differ under masked keys only are redacted alike just if no mask shows a
difference. A record is redacted if its masked values have texts, and then the keys of each record
that redaction comes to are there after it, in their order. -/
theorem masks_show_no_more {es fs : Entries} :
    (VaryMasked Mask.ShowAlike (.map es) (.map fs) → redact es = redact fs) ∧
    (∀ R rs, VaryMasked R (.map es) (.map fs) → redact es = .ok rs → redact fs = .ok rs →
      VaryMasked Mask.ShowAlike (.map es) (.map fs)) ∧
    (Writable (.map es) → ∃ rs, redact es = .ok rs) ∧
    ∀ rs, redact es = .ok rs → ∀ pos gs, Recursed (.map es) pos gs →
      ∃ hs, (Value.map rs).Holds pos (.map hs) ∧ hs.map (·.1) = gs.map (·.1) := by
  have inside : ∀ gs hs, redact gs = .ok hs → redactInside (.map gs) = .ok (.map hs) :=
    fun gs hs h => by rw [redactInside, h]; rfl
  refine ⟨fun h => ?_, fun R rs h he hf => ?_, fun h => ?_, fun rs hr pos gs h => ?_⟩
  · exact (exceptMap_inj fun _ _ => Value.map.inj).1 h.redactInside_eq
  · exact h.showAlike (inside _ _ he) (inside _ _ hf)
  · obtain ⟨x, hx⟩ := h.exists_redactInside
    obtain ⟨rs, hrs, -⟩ := exceptMap_ok.1 hx
    exact ⟨rs, hrs⟩
  · obtain ⟨hs, hgs, hold⟩ := h.holds (inside _ _ hr)
    exact ⟨hs, hold, keys_redact hgs⟩

def identifiedRecord (session build : String) (bucket : Value) : Entries :=
  [(.text "session_id", .text session),
   (.text "rows", .list [.map [(.text "build", .text build), (.text "bucket", bucket)], .null]),
   (.text "event", .text "sent")]

def numberedRecord : Entries := identifiedRecord "0123456789" "241.15" (.list [.text "a"])

def namedRecord : Entries := identifiedRecord "user-name-6789" "241.SNAPSHOT" (.leaf (.int 12))

theorem namedRecord_shows_no_more :
    VaryMasked Mask.ShowAlike (.map numberedRecord) (.map namedRecord) ∧
    redact numberedRecord = redact namedRecord ∧
    Recursed (.map numberedRecord) [.key (.text "rows"), .index 0]
      [(.text "build", .text "241.15"), (.text "bucket", .list [.text "a"])] ∧
    ∃ rs hs, redact numberedRecord = .ok rs ∧
      (Value.map rs).Holds [.key (.text "rows"), .index 0] (.map hs) ∧
      hs.map (·.1) = [.text "build", .text "bucket"] := by
  have session : Mask.ShowAlike (.id "session") (.text "0123456789") (.text "user-name-6789") :=
    .present nofun nofun rfl rfl ⟨by decide, fun _ => by decide⟩
  have build : Mask.ShowAlike .build (.text "241.15") (.text "241.SNAPSHOT") :=
    .present nofun nofun rfl rfl (show major "241.15" = major "241.SNAPSHOT" by decide)
  have bucket : Mask.ShowAlike (.id "bucket") (.list [.text "a"]) (.leaf (.int 12)) :=
    .present nofun nofun rfl rfl ⟨by decide +kernel, fun h => absurd h (by decide +kernel)⟩
  have rows : IsOpen (.text "rows") := rfl
  have varied : VaryMasked Mask.ShowAlike (.map numberedRecord) (.map namedRecord) :=
    .masked rfl session (.entry rows
      (.element (.masked rfl build (.masked rfl bucket .same)) .same) .same)
  have reached : Recursed (.map numberedRecord) [.key (.text "rows"), .index 0]
      [(.text "build", .text "241.15"), (.text "bucket", .list [.text "a"])] :=
    .entry rows (.tail _ (.head _)) (.element rfl .here)
  obtain ⟨alike, -, -, keys⟩ := @masks_show_no_more numberedRecord namedRecord
  obtain ⟨rs, hrs⟩ : ∃ rs, redact numberedRecord = .ok rs := ⟨_, rfl⟩
  obtain ⟨hs, hold, hkeys⟩ := keys rs hrs _ _ reached
  exact ⟨varied, alike varied, reached, rs, hs, hrs, hold, hkeys⟩

end Allowlist.Log
