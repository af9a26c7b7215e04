import Allowlist.Proofs.RuleSet.Vouched
import Allowlist.Proofs.Validator.Concealment
import Allowlist.Proofs.Validator.Retention

/-!
When an event cannot be recorded. A field needs a name, and a key that is no text gives way to one
only if no rule is defined for anything that stands under it.
-/

namespace Allowlist

namespace Value

/-- Scalars that are no marks, and lists of such values that are not empty. -/
inductive FlatUndefined : Value → Prop
  | leaf {s} : (Value.leaf s).isMark = false → FlatUndefined (.leaf s)
  | seq {v vs} : v.items? = some vs → vs ≠ [] → (∀ w ∈ vs, FlatUndefined w) → FlatUndefined v

theorem flatUndefined_seq {v : Value} {vs : List Value} (hv : v.items? = some vs) :
    v.FlatUndefined ↔ vs ≠ [] ∧ ∀ w ∈ vs, w.FlatUndefined := by
  constructor
  · intro h
    cases h with
    | leaf => cases hv
    | seq hv' hne h =>
      cases hv.symm.trans hv'
      exact ⟨hne, h⟩
  · rintro ⟨hne, h⟩
    exact .seq hv hne h

end Value

namespace Unnamed

variable {k : Key} {v : Value} {e : Key × Value}

theorem exists_check? (h : v.FlatUndefined) (k : Key) :
    ∃ e, check? k v = some e ∧ e.1 = .text undefinedName := by
  induction h with
  | leaf hs =>
    rw [check?, hs]
    exact ⟨_, rfl, rfl⟩
  | @seq v vs hv hne _ ih =>
    obtain ⟨es, hes⟩ := List.Forall₂.of_exists ih
    have undefined : allUndefined (es.map (·.1)) = true := by
      refine allUndefined_iff.2 ⟨by simpa using hes.ne_nil_iff.1 hne, ?_⟩
      intro k hk
      obtain ⟨e, he, rfl⟩ := List.mem_map.1 hk
      obtain ⟨_, _, _, hname⟩ := hes.exists_left he
      exact hname
    rw [check?_seq hv, checkAll?_eq_some.2 (hes.imp fun _ _ h => h.1)]
    exact ⟨_, rfl, if_pos undefined⟩

theorem key_of_not_flatUndefined (hk : k.isText = false) (h : check? k v = some e)
    (hv : ¬ v.FlatUndefined) : e.1 = k := by
  induction v using Value.induction generalizing e with
  | null =>
    cases h
    rfl
  | leaf s =>
    have hs : (Value.leaf s).isMark = true := by
      by_contra hs
      exact hv (.leaf (Bool.not_eq_true _ ▸ hs))
    rw [check?, if_pos hs] at h
    cases h
    rfl
  | seq v vs hi ih =>
    rw [check?_seq hi, Option.map_eq_some_iff] at h
    obtain ⟨es, hes, rfl⟩ := h
    rw [checkAll?_eq_some] at hes
    -- names that are all undefined would make all elements flat undefined, as `k` is no text
    refine if_neg fun undefined => hv ?_
    obtain ⟨hne, hnames⟩ := allUndefined_iff.1 undefined
    refine .seq hi (hes.ne_nil_iff.2 (by simpa using hne)) fun w hw => ?_
    obtain ⟨e, he, hc⟩ := hes.exists_right hw
    by_contra hflat
    have hname := hnames e.1 (List.mem_map_of_mem he)
    rw [ih w hw hc hflat] at hname
    rw [hname] at hk
    cases hk
  | map es ih =>
    rw [check?] at h
    split at h
    · cases h
    · cases h
      rfl

theorem key_of_check? (hk : k.isText = false) (h : check? k v = some e) :
    v.FlatUndefined ∧ e.1 = .text undefinedName ∨ ¬ v.FlatUndefined ∧ e.1 = k := by
  by_cases hv : v.FlatUndefined
  · obtain ⟨_, he, hname⟩ := exists_check? hv k
    cases h.symm.trans he
    exact .inl ⟨hv, hname⟩
  · exact .inr ⟨hv, key_of_not_flatUndefined hk h hv⟩

end Unnamed

def Key.isPlain : Key → Bool
  | .leaf (.bytes _) => false
  | .tuple _ => false
  | _ => true

theorem Key.fieldName?_eq_none_iff {k : Key} (hp : k.isPlain = true) :
    k.fieldName? = none ↔ k.isText = false := by
  cases k with
  | null => simp [fieldName?, chars?, isText]
  | leaf s =>
    cases s with
    | bytes bs => cases hp
    | _ => simp [fieldName?, chars?, isText]
  | tuple ks => cases hp

namespace Entries

theorem withFieldNames?_eq_none_iff {es : Entries} :
    withFieldNames? es = none ↔ ∃ e ∈ es, e.1.fieldName? = none := by
  induction es with
  | nil => simp [withFieldNames?]
  | cons e es ih =>
    rw [List.exists_mem_cons_iff, ← ih, withFieldNames?]
    cases e.1.fieldName? <;> cases withFieldNames? es <;> simp

theorem named_ofList_iff {es : Entries} : Named (ofList es) ↔ Named es := by
  refine ⟨fun h e he => ?_, Named.ofList⟩
  obtain ⟨_, hk, hs⟩ := key_ofList he
  obtain ⟨f, hf, rfl⟩ := List.mem_map.1 hk
  cases hs with
  | inl hs => exact hs ▸ h f hf
  | inr hs =>
    obtain ⟨s, hname⟩ := Key.isText_iff.1 (h f hf)
    rw [hname, Key.text_same_iff] at hs
    rw [hs]
    rfl

theorem escape?_ofList_eq_none_iff {es : Entries} (hp : ∀ e ∈ es, e.1.isPlain = true) :
    escape? (ofList es) = none ↔ ¬ Named es := by
  have plain : ∀ e ∈ ofList es, e.1.isPlain = true := by
    intro e he
    obtain ⟨e', he', hk⟩ := List.mem_map.1 (key_mem_of_mem_ofList he)
    exact hk ▸ hp e' he'
  rw [escape?, Option.map_eq_none_iff, withFieldNames?_eq_none_iff, ← named_ofList_iff, Named]
  simp only [not_forall, Bool.not_eq_true, exists_prop]
  exact exists_congr fun e => and_congr_right fun he => Key.fieldName?_eq_none_iff (plain e he)

end Entries

namespace Validator

variable {v : Validator} {e : Event} {rules : RuleSet} {ctx : Context} {x f : Key × Value}

def Nameless (x : Key × Value) : Prop := x.1.isText = false ∧ ¬ x.2.FlatUndefined

theorem nameless_of_checkEntry (h : checkEntry rules ctx x = .error .unnamed) : Nameless x := by
  have hk : x.1.isText = false := by
    by_contra hk
    exact checkEntry_ne_unnamed (Bool.not_eq_false _ ▸ hk) h
  refine ⟨hk, fun hx => ?_⟩
  obtain ⟨f, hf, _⟩ := Unnamed.exists_check? hx x.1
  rw [(checkEntry_unnamed hk).2 hf] at h
  cases h

theorem key_of_checkEntry (h : checkEntry rules ctx x = .ok f) :
    Nameless x ∧ f.1 = x.1 ∨ ¬ Nameless x ∧ ∃ name, f.1 = .text name := by
  obtain ⟨k, y⟩ := x
  by_cases hk : k.isText = true
  · right
    refine ⟨fun hx => ?_, ?_⟩
    · rw [hx.1] at hk
      cases hk
    · obtain ⟨name, rfl⟩ := Key.isText_iff.1 hk
      obtain ⟨g, _, rfl⟩ := checkEntry_named.1 h
      exact ⟨_, rfl⟩
  · rw [Bool.not_eq_true] at hk
    cases Unnamed.key_of_check? hk ((checkEntry_unnamed hk).1 h) with
    | inl hy => exact .inr ⟨fun hx => hx.2 hy.1, _, hy.2⟩
    | inr hy => exact .inl ⟨⟨hk, hy.1⟩, hy.2⟩

theorem isPlain_of_checkEntry (h : checkEntry rules ctx x = .ok f) (hp : x.1.isPlain = true) :
    f.1.isPlain = true := by
  obtain ⟨_, hk⟩ | ⟨_, name, hk⟩ := key_of_checkEntry h
  · rwa [hk]
  · rw [hk]
    rfl

theorem isText_of_checkEntry (h : checkEntry rules ctx x = .ok f) :
    ¬ Nameless x ↔ f.1.isText = true := by
  obtain ⟨hx, hk⟩ | ⟨hx, name, hk⟩ := key_of_checkEntry h
  · exact iff_of_false (fun hn => hn hx) (by rw [hk, hx.1]; simp)
  · exact iff_of_true hx (by rw [hk]; rfl)

theorem record_error {id : String} {es : Entries} {fault : Fault} :
    record e id es = .error fault ↔
      Entries.escape? (Entries.ofList es) = none ∧ fault = .unnamed := by
  unfold record Event.escape?
  cases h : Entries.escape? (Entries.ofList es) with
  | none => simp [h, eq_comm]
  | some data => simp [h]

theorem record_checked {es fs : Entries} {id : String} (hp : ∀ x ∈ es, x.1.isPlain = true)
    (h : es.mapM (checkEntry rules ctx) = .ok fs) :
    record e id fs = .error .unnamed ↔ ∃ x ∈ es, Nameless x := by
  rw [mapM_ok] at h
  have plain : ∀ f ∈ fs, f.1.isPlain = true := by
    intro f hf
    obtain ⟨x, hx, hc⟩ := h.exists_left hf
    exact isPlain_of_checkEntry hc (hp x hx)
  have named : (∀ x ∈ es, ¬ Nameless x) ↔ Entries.Named fs :=
    (h.imp fun _ _ => isText_of_checkEntry).forall_iff
  rw [record_error, and_iff_left rfl, Entries.escape?_ofList_eq_none_iff plain, ← named]
  simp

theorem validate_ruled (hrules : v.rules? e.envelope.groupId = some rules)
    (hn : v.refuses e.envelope = false) (hp : ∀ x ∈ e.data.getD [], x.1.isPlain = true)
    (hf : ∀ c ∈ v.calls e, c.fails = false) (hs : (Value.map (e.data.getD [])).Short) :
    ((v.validate e).result = .error .unnamed ↔ ∃ x ∈ e.data.getD [], Nameless x) ∧
      ∀ f, (v.validate e).result ≠ .error (.rule f) := by
  obtain ⟨verdict, hi, hcases⟩ := event_cases hrules hn hf
  rw [validate_result, hn, hi, checkEntries_ruled hrules]
  rw [checkEntries_ruled hrules] at hcases
  obtain ⟨⟨fs, hc⟩, -⟩ | hc | ⟨-, x, hx, hnot⟩ := hcases
  · rw [hc]
    refine ⟨record_checked hp hc, fun f hr => ?_⟩
    cases (record_error.1 hr).2
  · rw [hc]
    obtain ⟨before, x, after, -, hes, -, hx⟩ := mapM_error hc
    have hmem : x ∈ e.context.data.getD [] := by simp [hes]
    exact ⟨iff_of_true rfl ⟨x, hmem, nameless_of_checkEntry hx⟩, fun f hr => by cases hr⟩
  · have writes : EntryWrites rules x := fun name _ =>
      RuleSet.writes_of_short (hs.entry (k := x.1) hx)
    exact absurd writes hnot

def Admits (v : Validator) (e : Envelope) : Prop :=
  ∃ reg, v.registry = some reg ∧ reg.accepts e.groupId e.groupVersion e.build = true

theorem unnamed_or_ok (hv : ∀ reg, v.registry = some reg → reg.Reachable)
    (hp : ∀ x ∈ e.data.getD [], x.1.isPlain = true) (hf : ∀ c ∈ v.calls e, c.fails = false)
    (hs : (Value.map (e.data.getD [])).Short) :
    ((v.validate e).result = .error .unnamed ↔
      v.Admits e.envelope ∧ ∃ x ∈ e.data.getD [], Nameless x) ∧
      ∀ f, (v.validate e).result ≠ .error (.rule f) := by
  cases hreg : v.registry with
  | none => simp [validate_unreachable hreg, Admits, hreg]
  | some reg =>
    have refuses : v.refuses e.envelope =
        !reg.accepts e.envelope.groupId e.envelope.groupVersion e.envelope.build := by
      rw [Validator.refuses, hreg, Option.any_some]
    cases ha : reg.accepts e.envelope.groupId e.envelope.groupVersion e.envelope.build with
    | false =>
      rw [ha] at refuses
      simp [validate_result, refuses, Admits, hreg, ha]
    | true =>
      rw [ha] at refuses
      obtain ⟨rules, hrules⟩ := rules?_of_not_refuses hreg (hv reg hreg) refuses
      obtain ⟨hiff, hrule⟩ := validate_ruled hrules refuses hp hf hs
      have admits : v.Admits e.envelope := ⟨reg, hreg, ha⟩
      exact ⟨hiff.trans (and_iff_right admits).symm, hrule⟩

/-- Unless a rule fails or a number is too long to be written, validation fails exactly if the event
is admitted and an entry of its data gets no name. Whatever stands under names, it does not fail. -/
theorem validate_unnamed_iff (hv : ∀ reg, v.registry = some reg → reg.Reachable)
    (hp : ∀ x ∈ e.data.getD [], x.1.isPlain = true) (hf : ∀ c ∈ v.calls e, c.fails = false)
    (hs : (Value.map (e.data.getD [])).Short) :
    ((v.validate e).result = .error .unnamed ↔
      v.Admits e.envelope ∧ ∃ x ∈ e.data.getD [], Nameless x) ∧
    (Entries.Named (e.data.getD []) → ∃ o, (v.validate e).result = .ok o) := by
  obtain ⟨hiff, hrule⟩ := unnamed_or_ok hv hp hf hs
  refine ⟨hiff, fun named => ?_⟩
  cases hr : (v.validate e).result with
  | ok o => exact ⟨o, rfl⟩
  | error fault =>
    cases fault with
    | rule f => exact absurd hr (hrule f)
    | unnamed =>
      obtain ⟨_, x, hx, hk, _⟩ := hiff.1 hr
      rw [named x hx] at hk
      cases hk

def numberedEvent (y : Value) : Event :=
  { sampleEvent with data := some [(.text "a", samplePayload), (.leaf (.int 3), y)] }

theorem plain_numberedEvent (y : Value) :
    ∀ x ∈ (numberedEvent y).data.getD [], x.1.isPlain = true := by
  simp [numberedEvent, Key.isPlain]

theorem short_numberedEvent {y : Value} (hy : y.Short) :
    (Value.map ((numberedEvent y).data.getD [])).Short := by
  intro l hl
  simp only [Value.leaves_map, numberedEvent, Option.getD_some, List.flatMap_cons, List.flatMap_nil,
    List.append_nil, List.mem_append, List.mem_map] at hl
  obtain ⟨l, hl, rfl⟩ | ⟨l, hl, rfl⟩ := hl
  · exact short_samplePayload l hl
  · exact hy l hl

theorem numberedEvent_validated :
    (sample.validate (numberedEvent (.list [.text "x", .null]))).result = .error .unnamed ∧
      (sample.validate (numberedEvent (.tuple [.text "x", .leaf (.int 5)]))).result ≠
        .error .unnamed ∧
      ∃ o, (sample.validate sampleEvent).result = .ok o := by
  have reachable : ∀ reg, sample.registry = some reg → reg.Reachable := by
    rintro _ ⟨⟩
    exact Registry.reachable_sample
  refine ⟨?_, ?_, ?_⟩
  · have short : (Value.list [.text "x", .null]).Short := by
      simp [Value.Short, Value.leaves, Value.leavesAll]
    refine (validate_unnamed_iff reachable (plain_numberedEvent _) (sample_answers _ rfl)
      (short_numberedEvent short)).1.2 ⟨⟨_, rfl, rfl⟩, _, .tail _ (.head _), rfl, fun h => ?_⟩
    cases ((Value.flatUndefined_seq rfl).1 h).2 .null (by simp) with
    | seq hv => cases hv
  · have short : (Value.tuple [.text "x", .leaf (.int 5)]).Short := by
      simp [Value.Short, Value.leaves, Value.leavesAll]
      decide
    rw [ne_eq, (validate_unnamed_iff reachable (plain_numberedEvent _) (sample_answers _ rfl)
      (short_numberedEvent short)).1]
    rintro ⟨-, x, hx, hk, hy⟩
    cases hx with
    | head => cases hk
    | tail _ hx =>
      cases List.mem_singleton.1 hx
      refine hy (.seq rfl (by simp) (List.forall_mem_cons.2 ⟨.leaf (by decide), ?_⟩))
      exact List.forall_mem_singleton.2 (.leaf rfl)
  · have plain : ∀ x ∈ sampleEvent.data.getD [], x.1.isPlain = true := by
      simp [sampleEvent, Key.isPlain]
    have short : (Value.map (sampleEvent.data.getD [])).Short := by
      intro l hl
      simp only [sampleEvent, Option.getD_some, Value.leaves_map, List.flatMap_cons,
        List.flatMap_nil, List.append_nil, List.mem_map] at hl
      obtain ⟨l, hl, rfl⟩ := hl
      exact short_samplePayload l hl
    refine (validate_unnamed_iff reachable plain (sample_answers _ rfl) short).2 ?_
    simp [sampleEvent, Entries.Named, Key.isText]

end Validator

end Allowlist
