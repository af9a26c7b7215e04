import Allowlist.Proofs.Entries
import Allowlist.Proofs.Escape.Fixed
import Allowlist.Proofs.Position

namespace Allowlist

theorem Key.escape_of_not_isText {k : Key} (h : k.isText = false) : k.escape = k := by
  cases k with
  | null => rfl
  | leaf a =>
    cases a with
    | text s => cases h
    | _ => rfl
  | tuple ks => rfl

@[simp] theorem Key.escape_escape (k : Key) : k.escape.escape = k.escape := by
  by_cases h : k.isText = true
  · obtain ⟨s, rfl⟩ := Key.isText_iff.1 h
    simp [escape]
  · rw [Bool.not_eq_true] at h
    rw [escape_of_not_isText h, escape_of_not_isText h]

@[simp] theorem Scalar.escape_escape (s : Scalar) : s.escape.escape = s.escape := by
  cases s <;> simp [escape]

namespace Value

theorem escapeAll_eq_map (vs : List Value) : escapeAll vs = vs.map escape := by
  induction vs with
  | nil => rfl
  | cons v vs ih => rw [escapeAll, ih, List.map_cons]

def escapeEntry (e : Key × Value) : Key × Value := (e.1.escape, e.2.escape)

theorem escapeEntries_eq_map (es : Entries) : escapeEntries es = es.map escapeEntry := by
  induction es with
  | nil => rfl
  | cons e es ih => rw [escapeEntries, ih, List.map_cons, escapeEntry]

theorem escape_seq {v : Value} {vs : List Value} (hv : v.items? = some vs) :
    v.escape = .list (vs.map escape) := by
  cases items?_eq_some.1 hv with
  | inl hv => rw [hv, escape, escapeAll_eq_map]
  | inr hv => rw [hv, escape, escapeAll_eq_map]

theorem escape_map (es : Entries) :
    (map es).escape = .map (Entries.ofList (es.map escapeEntry)) := by
  rw [escape, escapeEntries_eq_map]

@[simp] theorem escape_mark (u : Verdict) : u.value.escape = u.value := by
  simp [Verdict.value, escape, Scalar.escape]

theorem escapeEntry_of_mem {es : Entries} (h : ∀ e ∈ es, e.2.escape.escape = e.2.escape)
    {e : Key × Value} (he : e ∈ Entries.ofList (es.map escapeEntry)) : escapeEntry e = e := by
  obtain ⟨k, v⟩ := e
  obtain ⟨e₁, he₁, hk⟩ := List.mem_map.1 (Entries.key_mem_of_mem_ofList he)
  obtain ⟨e₁, _, rfl⟩ := List.mem_map.1 he₁
  obtain ⟨k', hk', _⟩ := Entries.mem_ofList he
  obtain ⟨e₂, he₂, hv⟩ := List.mem_map.1 hk'
  have hk : e₁.1.escape = k := hk
  have hv : e₂.2.escape = v := congrArg Prod.snd hv
  rw [escapeEntry, ← hk, ← hv, Key.escape_escape, h e₂ he₂]

@[simp] theorem escape_escape (v : Value) : v.escape.escape = v.escape := by
  induction v using Value.induction with
  | null => rfl
  | leaf s => simp [escape]
  | seq v vs hv ih =>
    rw [escape_seq hv, escape_seq rfl, List.map_map]
    congr 1
    exact List.map_congr_left ih
  | map es ih =>
    have fixed := (List.map_congr_left (g := id) fun e => escapeEntry_of_mem ih (e := e)).trans
      (List.map_id _)
    rw [escape_map, escape_map, fixed, Entries.ofList_ofList]

theorem holds_escape {v y : Value} {pos : Position} (h : v.escape.Holds pos y)
    (hy : y.isAtom = true) : ∃ pos x, v.Holds pos x ∧ x.isAtom = true ∧ y = x.escape := by
  induction v using Value.induction generalizing pos with
  | null => exact ⟨[], .null, .here, rfl, (h.eq_of_atom rfl).2⟩
  | leaf s => exact ⟨[], .leaf s, .here, rfl, (h.eq_of_atom rfl).2⟩
  | seq v vs hv ih =>
    rw [escape_seq hv] at h
    obtain ⟨i, w, pos, rfl, hw, h⟩ := h.item_inv rfl hy
    rw [List.getElem?_map, Option.map_eq_some_iff] at hw
    obtain ⟨w, hw, rfl⟩ := hw
    obtain ⟨pos, x, hx, ha, rfl⟩ := ih w (List.mem_of_getElem? hw) h
    exact ⟨_, x, .item hv hw hx, ha, rfl⟩
  | map es ih =>
    rw [escape_map] at h
    obtain ⟨k, w, pos, rfl, hw, h⟩ := h.entry_inv hy
    obtain ⟨k, hw, _⟩ := Entries.mem_ofList hw
    obtain ⟨e, he, heq⟩ := List.mem_map.1 hw
    cases heq
    obtain ⟨pos, x, hx, ha, rfl⟩ := ih e he h
    exact ⟨_, x, .entry he hx, ha, rfl⟩

end Value

namespace Entries

def Named (es : Entries) : Prop := ∀ e ∈ es, e.1.isText = true

theorem withFieldNames?_of_named {es : Entries} (h : Named es) :
    withFieldNames? es = some (es.map Value.escapeEntry) := by
  induction es with
  | nil => rfl
  | cons e es ih =>
    obtain ⟨k, v⟩ := e
    obtain ⟨hk, hes⟩ := List.forall_mem_cons.1 h
    obtain ⟨s, rfl⟩ := Key.isText_iff.1 hk
    rw [withFieldNames?, ih hes]
    rfl

theorem escape?_of_named {es : Entries} (h : Named es) :
    escape? es = some (ofList (es.map Value.escapeEntry)) := by
  rw [escape?, withFieldNames?_of_named h]
  rfl

theorem mem_of_mem_ofList {es : Entries} (h : Named es) {e : Key × Value} (he : e ∈ ofList es) :
    e ∈ es := by
  cases mem_ofList_cases he with
  | inl he => exact he
  | inr he =>
    obtain ⟨_, k, hk, he⟩ := he
    have hk' : k.isText = true := h _ he
    rw [hk] at hk'
    cases hk'

theorem Named.ofList {es : Entries} (h : Named es) : Named (ofList es) :=
  fun e he => h e (mem_of_mem_ofList h he)

theorem named_escape {es : Entries} (h : Named es) : Named (ofList (es.map Value.escapeEntry)) := by
  apply Named.ofList
  intro e he
  obtain ⟨e', he', rfl⟩ := List.mem_map.1 he
  obtain ⟨s, hs⟩ := Key.isText_iff.1 (h e' he')
  rw [Value.escapeEntry, hs]
  rfl

theorem escape?_escape? {es data : Entries} (h : Named es) (hd : escape? es = some data) :
    escape? data = some data := by
  rw [escape?_of_named h] at hd
  cases hd
  rw [escape?_of_named (named_escape h)]
  have again := Value.escape_escape (.map es)
  rw [Value.escape_map, Value.escape_map] at again
  exact congrArg some (Value.map.inj again)

end Entries

end Allowlist
