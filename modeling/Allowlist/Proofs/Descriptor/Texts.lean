import Allowlist.Descriptor.Load
import Allowlist.Proofs.Named
import Allowlist.Proofs.Position

namespace Allowlist

section

variable (h : String → String)

def Scalar.mapText : Scalar → Scalar
  | .text s => .text (h s)
  | s => s

mutual
/-- The texts of a value replaced, those apart that are keys. -/
def Value.mapTexts : Value → Value
  | .null => .null
  | .leaf s => .leaf (s.mapText h)
  | .list vs => .list (Value.mapTextsAll vs)
  | .tuple vs => .tuple (Value.mapTextsAll vs)
  | .map es => .map (Value.mapTextsUnder es)

def Value.mapTextsAll : List Value → List Value
  | [] => []
  | v :: vs => v.mapTexts :: Value.mapTextsAll vs

def Value.mapTextsUnder : Entries → Entries
  | [] => []
  | (k, v) :: es => (k, v.mapTexts) :: Value.mapTextsUnder es
end

def Value.mapInside : Value → Value
  | .leaf s => .leaf s
  | v => v.mapTexts h

def Range.mapTexts (r : Range) : Range := ⟨r.lower.map h, r.upper.map h⟩

def RuleData.mapTexts (d : RuleData) : RuleData :=
  ⟨d.enums.mapValues (List.map h), d.regexps.mapValues h⟩

def RuleDescriptor.mapTexts (r : RuleDescriptor) : RuleDescriptor where
  eventId := r.eventId.map (List.map h)
  eventData := r.eventData.map (Named.mapValues (List.map h))
  enums := r.enums.map (Named.mapValues (List.map h))
  regexps := r.regexps.map (Named.mapValues h)

def GroupDescriptor.mapTexts (g : GroupDescriptor) : GroupDescriptor where
  id := h g.id
  builds := g.builds.map (Range.mapTexts h)
  versions := g.versions.map (Range.mapTexts h)
  rules := g.rules.map (RuleDescriptor.mapTexts h)

def Descriptors.mapTexts (d : Descriptors) : Descriptors :=
  ⟨d.groups.map (GroupDescriptor.mapTexts h), d.shared.mapTexts h⟩

end

namespace Value

abbrev WithoutBytes : Value → Prop := All (fun s => ∀ bs, s ≠ .bytes bs) fun _ => True

variable {h : String → String}

theorem mapTextsAll_eq_map (vs : List Value) : mapTextsAll h vs = vs.map (mapTexts h) := by
  induction vs with
  | nil => rfl
  | cons v vs ih => rw [mapTextsAll, ih, List.map_cons]

theorem mapTextsUnder_eq_map (es : Entries) :
    mapTextsUnder h es = es.map fun e => (e.1, e.2.mapTexts h) := by
  induction es with
  | nil => rfl
  | cons e es ih => rw [mapTextsUnder, ih, List.map_cons]

end Value

namespace Loaded

variable {α β γ δ : Type}

inductive Alike (R : α → β → Prop) : Loaded α → Loaded β → Prop
  | ok {a b} : R a b → Alike R (.ok a) (.ok b)
  | invalid {ls} : Alike R (.invalid ls) (.invalid ls)

namespace Alike

variable {R : α → β → Prop} {S : γ → δ → Prop} {x : Loaded α} {y : Loaded β}

theorem imp {R' : α → β → Prop} (hx : Alike R x y) (hr : ∀ a b, R a b → R' a b) :
    Alike R' x y := by
  cases hx with
  | ok h => exact .ok (hr _ _ h)
  | invalid => exact .invalid

theorem refl {R : α → α → Prop} (hr : ∀ a, R a a) (x : Loaded α) : Alike R x x := by
  cases x with
  | ok a => exact .ok (hr a)
  | invalid ls => exact .invalid

theorem map {f : α → γ} {g : β → δ} (hx : Alike R x y) (hfg : ∀ a b, R a b → S (f a) (g b)) :
    Alike S (f <$> x) (g <$> y) := by
  cases hx with
  | ok h => exact .ok (hfg _ _ h)
  | invalid => exact .invalid

theorem seq {f : Loaded (α → γ)} {g : Loaded (β → δ)}
    (hf : Alike (fun f g => ∀ a b, R a b → S (f a) (g b)) f g) (hx : Alike R x y) :
    Alike S (f <*> x) (g <*> y) := by
  cases hf with
  | ok hf =>
    cases hx with
    | ok h => exact .ok (hf _ _ h)
    | invalid => exact .invalid
  | invalid =>
    cases hx with
    | ok => exact .invalid
    | invalid => exact .invalid

theorem under (step : String) (hx : Alike R x y) : Alike R (x.under step) (y.under step) := by
  cases hx with
  | ok h => exact .ok h
  | invalid => exact .invalid

end Alike

end Loaded

namespace Load

open Loaded (Alike)

variable {α : Type} {h : String → String} {f : α → α} {read : Value → Loaded α}

/-- What is read from a value with other texts is read alike, and is what `f` gives if no text was
given as bytes. -/
def Follows (h : String → String) (f : α → α) (read : Value → Loaded α) : Prop :=
  ∀ v, Alike (fun a b => v.WithoutBytes → b = f a) (read v) (read (v.mapTexts h))

def FollowsEntries (h : String → String) (f : α → α) (read : Entries → Loaded α) : Prop :=
  ∀ es, Alike (fun a b => (∀ e ∈ es, e.2.WithoutBytes) → b = f a) (read es)
    (read (es.map fun e => (e.1, e.2.mapTexts h)))

theorem follows_text : Follows h h text := by
  intro v
  cases v with
  | leaf s =>
    cases s with
    | text s => exact .ok fun _ => rfl
    | bytes bs =>
      refine .refl (fun s hb => ?_) (text (.leaf (.bytes bs)))
      exact absurd rfl (hb.scalar bs)
    | _ => exact .invalid
  | _ => exact .invalid

theorem follows_nonEmptyText (hh : ∀ s, h s = "" ↔ s = "") : Follows h h nonEmptyText := by
  intro v
  cases v with
  | leaf s =>
    cases s with
    | text s =>
      by_cases hs : s = ""
      · rw [Value.mapTexts, Scalar.mapText, (hh s).2 hs, hs]
        exact .invalid
      · have read {t : String} (ht : t ≠ "") : nonEmptyText (.text t) = .ok t := by
          simp only [nonEmptyText, text]
          split
          · next he => exact absurd (Loaded.ok.inj he) ht
          · rfl
        rw [Value.mapTexts, Scalar.mapText, read hs, read (mt (hh s).1 hs)]
        exact .ok fun _ => rfl
    | bytes bs =>
      refine .refl (fun s hb => ?_) (nonEmptyText (.leaf (.bytes bs)))
      exact absurd rfl (hb.scalar bs)
    | _ => exact .invalid
  | _ => exact .invalid

theorem follows_nullable (hf : Follows h f read) : Follows h (Option.map f) (nullable read) := by
  intro v
  have some : Alike (fun a b => v.WithoutBytes → b = Option.map f a) (some <$> read v)
      (some <$> read (v.mapTexts h)) := (hf v).map fun a b hab hb => congrArg some (hab hb)
  cases v with
  | null => exact .ok fun _ => rfl
  | _ => exact some

theorem itemsFrom_alike (hf : Follows h f read) (i : Nat) (vs : List Value) :
    Alike (fun as bs => (∀ v ∈ vs, v.WithoutBytes) → bs = as.map f) (itemsFrom read i vs)
      (itemsFrom read i (vs.map (Value.mapTexts h))) := by
  induction vs generalizing i with
  | nil => exact .ok fun _ => rfl
  | cons v vs ih =>
    refine (((hf v).under (toString i)).map ?_).seq (ih (i + 1))
    intro a b hab as bs habs hb
    rw [List.forall_mem_cons] at hb
    rw [hab hb.1, habs hb.2, List.map_cons]

theorem follows_items (hf : Follows h f read) : Follows h (List.map f) (items read) := by
  intro v
  cases v with
  | list vs =>
    rw [Value.mapTexts, Value.mapTextsAll_eq_map]
    exact (itemsFrom_alike hf 0 vs).imp fun _ _ hab hb => hab fun w hw => hb.item rfl hw
  | tuple vs =>
    rw [Value.mapTexts, Value.mapTextsAll_eq_map]
    exact (itemsFrom_alike hf 0 vs).imp fun _ _ hab hb => hab fun w hw => hb.item rfl hw
  | _ => exact .invalid

theorem pairs_alike (hf : Follows h f read) (es : Entries) :
    Alike (fun as bs => (∀ e ∈ es, e.2.WithoutBytes) → bs = as.map fun a => (a.1, f a.2))
      (pairs read es) (pairs read (es.map fun e => (e.1, e.2.mapTexts h))) := by
  induction es with
  | nil => exact .ok fun _ => rfl
  | cons e es ih =>
    obtain ⟨k, v⟩ := e
    have key : Alike Eq (keyText k) (keyText k) := .refl (fun _ => rfl) _
    have pair : Alike (fun a b => v.WithoutBytes → b = (a.1, f a.2))
        (Prod.mk <$> keyText k <*> read v) (Prod.mk <$> keyText k <*> read (v.mapTexts h)) := by
      refine (key.map ?_).seq (hf v)
      rintro s _ rfl a b hab hb
      rw [hab hb]
    refine ((pair.under (keyStep k)).map ?_).seq ih
    intro a b hab as bs habs hb
    rw [List.forall_mem_cons] at hb
    rw [hab hb.1, habs hb.2, List.map_cons]

theorem follows_mapping (hf : Follows h f read) :
    Follows h (Named.mapValues f) (mapping read) := by
  intro v
  cases v with
  | map es =>
    rw [Value.mapTexts, Value.mapTextsUnder_eq_map]
    refine (pairs_alike hf es).map fun as bs hab hb => ?_
    rw [hab fun e he => hb.entry he, Named.ofList_mapValues]
  | _ => exact .invalid

theorem field_alike {es : Entries} {v : Value} {name : String} (hf : Follows h f read)
    (hv : Entries.get? (.text name) es = some v) :
    Alike (fun a b => (∀ e ∈ es, e.2.WithoutBytes) → b = f a) ((read v).under name)
      ((read (v.mapTexts h)).under name) :=
  ((hf v).imp fun _ _ hab hb => hab (hb _ (Entries.mem_of_get? hv))).under name

theorem followsEntries_required (name : String) (hf : Follows h f read) :
    FollowsEntries h f (required name read) := by
  intro es
  simp only [required, Entries.get?_map_value]
  cases hv : Entries.get? (.text name) es with
  | none => exact .invalid
  | some v => exact field_alike hf hv

theorem followsEntries_fieldOr {default : α} (name : String) (hf : Follows h f read)
    (hd : f default = default) : FollowsEntries h f (fieldOr name default read) := by
  intro es
  simp only [fieldOr, Entries.get?_map_value]
  cases hv : Entries.get? (.text name) es with
  | none => exact .ok fun _ => hd.symm
  | some v => exact field_alike hf hv

theorem followsEntries_optional (name : String) (hf : Follows h f read) :
    FollowsEntries h (Option.map f) (fieldOr name none (nullable read)) :=
  followsEntries_fieldOr name (follows_nullable hf) rfl

theorem followsEntries_lowerBound : FollowsEntries h (Option.map h) lowerBound := by
  intro es
  have second := followsEntries_optional "from_" (follows_text (h := h)) es
  simp only [lowerBound, Entries.get?_map_value]
  cases hv : Entries.get? (.text "from") es with
  | none => exact second
  | some v => exact field_alike (follows_nullable follows_text) hv

theorem follows_object {read : Entries → Loaded α} (hf : FollowsEntries h f read) :
    Follows h f (object read) := by
  intro v
  cases v with
  | map es =>
    rw [Value.mapTexts, Value.mapTextsUnder_eq_map]
    exact (hf es).imp fun _ _ hab hb => hab fun e he => hb.entry he
  | _ => exact .invalid

theorem follows_range : Follows h (Range.mapTexts h) range := by
  refine follows_object fun es => ?_
  refine ((followsEntries_lowerBound es).map ?_).seq (followsEntries_optional "to" follows_text es)
  intro a b hab c d hcd hb
  rw [hab hb, hcd hb, Range.mapTexts]

theorem follows_ruleDescriptor : Follows h (RuleDescriptor.mapTexts h) ruleDescriptor := by
  have lists : Follows h (Named.mapValues (List.map h)) (mapping (items text)) :=
    follows_mapping (follows_items follows_text)
  refine follows_object fun es => ?_
  refine ((((followsEntries_optional "event_id" (follows_items follows_text) es).map ?_).seq
    (followsEntries_optional "event_data" lists es)).seq
    (followsEntries_optional "enums" lists es)).seq
    (followsEntries_optional "regexps" (follows_mapping follows_text) es)
  intro ids ids' hi data data' hd enums enums' he regexps regexps' hr hb
  rw [hi hb, hd hb, he hb, hr hb, RuleDescriptor.mapTexts]

theorem follows_groupDescriptor (hh : ∀ s, h s = "" ↔ s = "") :
    Follows h (GroupDescriptor.mapTexts h) groupDescriptor := by
  refine follows_object fun es => ?_
  refine ((((followsEntries_required "id" (follows_nonEmptyText hh) es).map ?_).seq
    (followsEntries_fieldOr "builds" (follows_items follows_range) rfl es)).seq
    (followsEntries_fieldOr "versions" (follows_items follows_range) rfl es)).seq
    (followsEntries_optional "rules" follows_ruleDescriptor es)
  intro id id' hi builds builds' hbu versions versions' hv rules rules' hr hb
  rw [hi hb, hbu hb, hv hb, hr hb, GroupDescriptor.mapTexts]

theorem follows_ruleData : Follows h (RuleData.mapTexts h) ruleData := by
  refine follows_object fun es => ?_
  refine ((followsEntries_fieldOr "enums" (follows_mapping (follows_items follows_text)) rfl
    es).map ?_).seq (followsEntries_fieldOr "regexps" (follows_mapping follows_text) rfl es)
  intro enums enums' he regexps regexps' hr hb
  rw [he hb, hr hb, RuleData.mapTexts]

theorem follows_descriptors (hh : ∀ s, h s = "" ↔ s = "") :
    Follows h (Descriptors.mapTexts h) descriptors := by
  refine follows_object fun es => ?_
  refine ((followsEntries_fieldOr "groups" (follows_items (follows_groupDescriptor hh)) rfl
    es).map ?_).seq (followsEntries_fieldOr "rules" follows_ruleData rfl es)
  intro groups groups' hg rules rules' hr hb
  rw [hg hb, hr hb, Descriptors.mapTexts]

end Load

namespace Descriptors

/-- Texts other than keys are never seen in what is said about a document that does not fit. -/
theorem load_mapInside {h : String → String} (hh : ∀ s, h s = "" ↔ s = "") (v : Value) :
    (∀ m, load (v.mapInside h) = .error m ↔ load v = .error m) ∧
      (v.WithoutBytes → ∀ d, load v = .ok d → load (v.mapInside h) = .ok (d.mapTexts h)) := by
  have inside : Load.descriptors (v.mapInside h) = Load.descriptors (v.mapTexts h) := by
    cases v with
    | leaf s => rfl
    | _ => rfl
  have read := Load.follows_descriptors hh v
  unfold load
  rw [inside]
  generalize Load.descriptors v = x at read ⊢
  generalize Load.descriptors (v.mapTexts h) = y at read ⊢
  cases read with
  | invalid => exact ⟨fun _ => .rfl, fun _ _ hd => nomatch hd⟩
  | ok hab =>
    refine ⟨fun _ => ⟨nofun, nofun⟩, fun hv d hd => ?_⟩
    cases hd
    rw [hab hv]

def misfits : Value :=
  .map [(.text "groups", .list [.map [(.text "id", .text ""), (.text "builds", .text "1.2")]])]

def fitting : Value :=
  .map [
    (.text "groups", .list [.map [
      (.text "id", .text "g"),
      (.text "builds", .list [.map [(.text "from", .text "1.2"), (.text "to", .null)]]),
      (.text "rules", .map [
        (.text "event_id", .list [.text "{enum#e}"]),
        (.text "enums", .map [(.text "e", .list [.text "a", .text "b"])])])]]),
    (.text "rules", .map [(.text "regexps", .map [(.text "r", .text "x+")])])]

def doubled (s : String) : String := s ++ s

theorem doubled_eq_empty_iff (s : String) : doubled s = "" ↔ s = "" := by
  simp [doubled]

theorem withoutBytes_fitting : fitting.WithoutBytes := by
  have text (s : String) : Value.WithoutBytes (.text s) := .leaf fun _ => nofun
  have list {vs : List Value} : Value.WithoutBytes (.list vs) ↔ ∀ v ∈ vs, v.WithoutBytes :=
    ⟨fun h v hv => h.item rfl hv, .seq rfl⟩
  have map {es : Entries} : Value.WithoutBytes (.map es) ↔ ∀ e ∈ es, e.2.WithoutBytes :=
    ⟨fun h e he => h.entry he, .map trivial⟩
  simp [fitting, text, list, map, Value.All.null]

theorem load_doubled :
    (∀ s, doubled s = "" ↔ s = "") ∧
      load misfits = .error "Invalid rule descriptors at: groups.0.id, groups.0.builds" ∧
      load (misfits.mapInside doubled) = load misfits ∧
      fitting.WithoutBytes ∧
      ∃ d, load fitting = .ok d ∧ d.groups.map (·.id) = ["g"] ∧
        load (fitting.mapInside doubled) = .ok (d.mapTexts doubled) := by
  have failure : load misfits =
    .error "Invalid rule descriptors at: groups.0.id, groups.0.builds" := by rfl
  refine ⟨doubled_eq_empty_iff, failure, ?_, withoutBytes_fitting, _, rfl, rfl, ?_⟩
  · rw [failure]
    exact ((load_mapInside doubled_eq_empty_iff misfits).1 _).2 failure
  · exact (load_mapInside doubled_eq_empty_iff fitting).2 withoutBytes_fitting _ rfl

end Descriptors

end Allowlist
