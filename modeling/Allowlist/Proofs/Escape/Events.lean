import Allowlist.Event
import Allowlist.Proofs.Escape.Alphabet
import Allowlist.Proofs.Merging

namespace Allowlist

theorem Key.escape_eq_or {j k : Key} (h : j.same k = false) :
    j.escape = k.escape ∨ j.escape.same k.escape = false := by
  by_cases hj : j.isText = true
  · obtain ⟨s, rfl⟩ := isText_iff.1 hj
    by_cases hs : k.escape = .text (Escape.name s)
    · exact .inl hs.symm
    · right
      rwa [escape, ← Bool.not_eq_true, text_same_iff]
  · rw [Bool.not_eq_true] at hj
    right
    rw [escape_of_not_isText hj]
    by_cases hk : k.isText = true
    · obtain ⟨s, rfl⟩ := isText_iff.1 hk
      rw [escape, ← Bool.not_eq_true, same_text_iff]
      rintro rfl
      cases hj
    · rw [Bool.not_eq_true] at hk
      rwa [escape_of_not_isText hk]

namespace Value

/-- In no map on the way is a later key escaped to the same name. -/
inductive Survives : Value → Position → Value → Prop
  | here {v} : Survives v [] v
  | item {v vs i w pos x} : v.items? = some vs → vs[i]? = some w → Survives w pos x →
      Survives v (.index i :: pos) x
  | entry {before after k w pos x} : (∀ e ∈ after, k.escape.same e.1.escape = false) →
      Survives w pos x → Survives (.map (before ++ (k, w) :: after)) (.key k :: pos) x

theorem mem_escape_of_last {before after : Entries} {k : Key} {w : Value}
    (hd : Entries.Distinct (before ++ (k, w) :: after))
    (ha : ∀ e ∈ after, k.escape.same e.1.escape = false) :
    (k.escape, w.escape) ∈
      Entries.ofList ((before ++ (k, w) :: after).map escapeEntry) := by
  rw [List.map_append, List.map_cons]
  apply Entries.mem_ofList_of_last
  · intro e he
    obtain ⟨e', he', rfl⟩ := List.mem_map.1 he
    exact Key.escape_eq_or ((List.pairwise_append.1 hd).2.2 e' he' _ (.head _))
  · intro e he
    obtain ⟨e', he', rfl⟩ := List.mem_map.1 he
    exact ha e' he'

theorem Survives.holds_escape {v x : Value} {pos : Position} (h : v.Survives pos x)
    (hv : v.Keyed) : v.escape.Holds (pos.map Step.escape) x.escape := by
  induction h with
  | here => exact .here
  | @item v vs i w pos x hi hw h ih =>
    rw [escape_seq hi]
    refine .item rfl ?_ (ih (hv.item hi (List.mem_of_getElem? hw)))
    rw [List.getElem?_map, hw]
    rfl
  | @entry before after k w pos x ha h ih =>
    rw [escape_map]
    exact .entry (mem_escape_of_last hv.entries ha) (ih (hv.entry (e := (k, w)) (by simp)))

/-- A leaf that is no text stays the same, and a list or a tuple becomes a list of its length. -/
structure CarriedOver (x y : Value) : Prop where
  atom : x.isAtom = true → (∀ s, x ≠ .text s) → y = x
  items : ∀ vs, x.items? = some vs → ∃ ws, y = .list ws ∧ ws.length = vs.length

theorem carriedOver_escape (x : Value) : x.CarriedOver x.escape where
  atom ha ht := by
    cases x with
    | null => rfl
    | leaf s =>
      cases s with
      | text s => exact absurd rfl (ht s)
      | _ => rfl
    | _ => cases ha
  items vs hv := ⟨vs.map escape, escape_seq hv, List.length_map _⟩

end Value

@[simp] theorem Envelope.escape_escape (e : Envelope) : e.escape.escape = e.escape := by
  simp [escape]

namespace Event

structure Plain (e : Event) : Prop where
  session : Escape.IdText e.envelope.session
  build : Escape.IdText e.envelope.build
  bucket : Escape.IdText e.envelope.bucket
  groupId : Escape.IdText e.envelope.groupId
  groupVersion : Escape.IdText e.envelope.groupVersion
  recorderVersion : Escape.IdText e.envelope.recorderVersion
  id : Escape.ValueText e.id
  data : ∀ es, e.data = some es → (Value.map es).Plain

variable {e r : Event}

theorem escape?_eq (hn : Entries.Named (e.data.getD [])) (h : e.escape? = some r) :
    r = ⟨e.envelope.escape, Escape.value e.id,
      some (Entries.ofList ((e.data.getD []).map Value.escapeEntry)), e.state, e.count⟩ := by
  rw [escape?, Entries.escape?_of_named hn] at h
  exact (Option.some.inj h).symm

theorem escape?_plain (hn : Entries.Named (e.data.getD [])) (h : e.escape? = some r) :
    r.Plain := by
  obtain rfl := escape?_eq hn h
  refine ⟨Escape.idText_id _, Escape.idText_id _, Escape.idText_id _, Escape.idText_id _,
    Escape.idText_id _, Escape.idText_id _, Escape.valueText_value _, fun es hes => ?_⟩
  cases hes
  rw [← Value.escape_map]
  exact Value.plain_escape _

theorem escape?_escape? (hn : Entries.Named (e.data.getD [])) (h : e.escape? = some r) :
    r.escape? = some r := by
  obtain ⟨data, hdata, rfl⟩ := Option.map_eq_some_iff.1 h
  simp [escape?, Entries.escape?_escape? hn hdata]

/-- An event whose fields have names is recorded, in plain texts. Whatever carries no text and is
not overwritten is there again, and a record is recorded as it is. -/
theorem records_plain (hn : Entries.Named (e.data.getD []))
    (hk : (Value.map (e.data.getD [])).Keyed) : ∃ r data, e.escape? = some r ∧
      r.data = some data ∧ r.Plain ∧ r.envelope.time = e.envelope.time ∧ r.state = e.state ∧
      r.count = e.count ∧
      (∀ pos x, (Value.map (e.data.getD [])).Survives pos x →
        ∃ y, (Value.map data).Holds (pos.map Step.escape) y ∧ x.CarriedOver y) ∧
      r.escape? = some r := by
  obtain ⟨r, h⟩ : ∃ r, e.escape? = some r := by
    rw [escape?, Entries.escape?_of_named hn]
    exact ⟨_, rfl⟩
  have again := escape?_escape? hn h
  have plain := escape?_plain hn h
  obtain rfl := escape?_eq hn h
  refine ⟨_, _, h, rfl, plain, rfl, rfl, rfl, fun pos x hx => ?_, again⟩
  refine ⟨x.escape, ?_, x.carriedOver_escape⟩
  rw [← Value.escape_map]
  exact hx.holds_escape hk

def collidingEntries : Entries :=
  [(.text "c d", .leaf (.bool true)), (.text "c_d", .tuple [.null, .text "é"]),
    (.leaf (.int 1), .null)]

def collidingEvent : Event where
  envelope := ⟨"s:1", "1", "b", .leaf (.int 0), "g", "1", "1"⟩
  id := "e\n"
  data := some [(.text "a.b", .leaf (.int 5)), (.text "a:b", .map collidingEntries)]
  state := true
  count := .leaf (.int 1)

theorem named_collidingEvent : Entries.Named (collidingEvent.data.getD []) := by
  simp [Entries.Named, collidingEvent, Key.isText]

theorem keyed_collidingEvent : (Value.map (collidingEvent.data.getD [])).Keyed := by
  have pair : (Value.tuple [.null, .text "é"]).Keyed :=
    .seq rfl (by simp [Value.All.null, Value.All.leaf])
  have entries : (Value.map collidingEntries).Keyed :=
    .map (by decide)
      (by simp [collidingEntries, pair, Value.All.null, Value.All.leaf])
  exact .map (by decide)
    (by simp [collidingEvent, entries, Value.All.leaf])

theorem survives_collidingEvent : (Value.map (collidingEvent.data.getD [])).Survives
    [.key (.text "a:b"), .key (.text "c_d"), .index 0] .null := by
  refine @Value.Survives.entry [(.text "a.b", .leaf (.int 5))] [] _ _ _ _ (by simp) ?_
  refine @Value.Survives.entry [(.text "c d", .leaf (.bool true))] [(.leaf (.int 1), .null)] _ _ _ _
    (by decide) ?_
  exact .item rfl rfl .here

theorem collidingEvent_recorded : Entries.Named (collidingEvent.data.getD []) ∧
    (Value.map (collidingEvent.data.getD [])).Keyed ∧ ∃ r data,
      collidingEvent.escape? = some r ∧ r.data = some data ∧ r.Plain ∧ r.escape? = some r ∧
      (Value.map data).Holds [.key (.text "a_b"), .key (.text "c_d"), .index 0] .null := by
  refine ⟨named_collidingEvent, keyed_collidingEvent, ?_⟩
  obtain ⟨r, data, h, hd, plain, -, -, -, carried, again⟩ :=
    records_plain named_collidingEvent keyed_collidingEvent
  obtain ⟨y, hy, hc⟩ := carried _ _ survives_collidingEvent
  rw [hc.atom rfl (by simp)] at hy
  exact ⟨r, data, h, hd, plain, again, hy⟩

end Event

end Allowlist
