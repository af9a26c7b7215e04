import Allowlist.Descriptor.Load
import Allowlist.Proofs.Entries

/-!
Entries that are not asked for. An object is read from what stands under the names of its fields, so
that what else is added to it, or to an object inside of it, is never seen.
-/

namespace Allowlist

namespace Load

section

variable {α : Type} {read : Value → Loaded α}

theorem itemsFrom_replace {v w : Value} (h : read v = read w) (i : Nat)
    (before after : List Value) :
    itemsFrom read i (before ++ v :: after) = itemsFrom read i (before ++ w :: after) := by
  induction before generalizing i with
  | nil => simp only [List.nil_append, itemsFrom, h]
  | cons u before ih => simp only [List.cons_append, itemsFrom, ih]

def SameUnder (name : String) (read : Value → Loaded α) (es fs : Entries) : Prop :=
  (Entries.get? (.text name) es).map read = (Entries.get? (.text name) fs).map read

variable {name other : String} {default : α} {es fs before after : Entries} {v w : Value}

theorem SameUnder.insert (h : other ≠ name) :
    SameUnder name read (before ++ after) (before ++ (.text other, v) :: after) := by
  rw [SameUnder, Entries.get?_insert (by simpa using h)]

theorem SameUnder.replace (h : other = name → read v = read w) :
    SameUnder name read (before ++ (.text other, v) :: after)
      (before ++ (.text other, w) :: after) :=
  Entries.get?_replace (fun hk => h (by simpa using hk)) before after

theorem SameUnder.apart (h : other ≠ name) :
    SameUnder name read (before ++ (.text other, v) :: after)
      (before ++ (.text other, w) :: after) :=
  .replace fun he => absurd he h

theorem SameUnder.cases (h : SameUnder name read es fs) :
    Entries.get? (.text name) es = none ∧ Entries.get? (.text name) fs = none ∨
      ∃ v w, Entries.get? (.text name) es = some v ∧ Entries.get? (.text name) fs = some w ∧
        read v = read w := by
  unfold SameUnder at h
  cases he : Entries.get? (.text name) es with
  | none =>
    rw [he] at h
    exact .inl ⟨rfl, Option.map_eq_none_iff.1 h.symm⟩
  | some v =>
    rw [he] at h
    obtain ⟨w, hw, hread⟩ := Option.map_eq_some_iff.1 h.symm
    exact .inr ⟨v, w, rfl, hw, hread.symm⟩

theorem fieldOr_congr (h : SameUnder name read es fs) :
    fieldOr name default read es = fieldOr name default read fs := by
  obtain ⟨he, hf⟩ | ⟨v, w, he, hf, hread⟩ := h.cases
  · simp only [fieldOr, he, hf]
  · simp only [fieldOr, he, hf, hread]

theorem required_congr (h : SameUnder name read es fs) :
    required name read es = required name read fs := by
  obtain ⟨he, hf⟩ | ⟨v, w, he, hf, hread⟩ := h.cases
  · simp only [required, he, hf]
  · simp only [required, he, hf, hread]

theorem lowerBound_congr (h : SameUnder "from" (nullable text) es fs)
    (h' : SameUnder "from_" (nullable text) es fs) : lowerBound es = lowerBound fs := by
  obtain ⟨he, hf⟩ | ⟨v, w, he, hf, hread⟩ := h.cases
  · simp only [lowerBound, he, hf, fieldOr_congr h']
  · simp only [lowerBound, he, hf, hread]

theorem range_congr (hfrom : SameUnder "from" (nullable text) es fs)
    (hfrom' : SameUnder "from_" (nullable text) es fs)
    (hto : SameUnder "to" (nullable text) es fs) : range (.map es) = range (.map fs) := by
  simp only [range, object, lowerBound_congr hfrom hfrom', fieldOr_congr hto]

theorem rules_congr (hids : SameUnder "event_id" (nullable (items text)) es fs)
    (hdata : SameUnder "event_data" (nullable (mapping (items text))) es fs)
    (henums : SameUnder "enums" (nullable (mapping (items text))) es fs)
    (hregexps : SameUnder "regexps" (nullable (mapping text)) es fs) :
    nullable ruleDescriptor (.map es) = nullable ruleDescriptor (.map fs) := by
  simp only [nullable, ruleDescriptor, object, fieldOr_congr hids, fieldOr_congr hdata,
    fieldOr_congr henums, fieldOr_congr hregexps]

theorem groupDescriptor_congr (hid : SameUnder "id" nonEmptyText es fs)
    (hbuilds : SameUnder "builds" (items range) es fs)
    (hversions : SameUnder "versions" (items range) es fs)
    (hrules : SameUnder "rules" (nullable ruleDescriptor) es fs) :
    groupDescriptor (.map es) = groupDescriptor (.map fs) := by
  simp only [groupDescriptor, object, required_congr hid, fieldOr_congr hbuilds,
    fieldOr_congr hversions, fieldOr_congr hrules]

theorem ruleData_congr (henums : SameUnder "enums" (mapping (items text)) es fs)
    (hregexps : SameUnder "regexps" (mapping text) es fs) :
    ruleData (.map es) = ruleData (.map fs) := by
  simp only [ruleData, object, fieldOr_congr henums, fieldOr_congr hregexps]

theorem descriptors_congr (hgroups : SameUnder "groups" (items groupDescriptor) es fs)
    (hrules : SameUnder "rules" ruleData es fs) :
    descriptors (.map es) = descriptors (.map fs) := by
  simp only [descriptors, object, fieldOr_congr hgroups, fieldOr_congr hrules]

end

inductive Kind
  | document
  | group
  | range
  | rules
  | shared
  | list (k : Kind)

namespace Kind

def names : Kind → List String
  | document => ["groups", "rules"]
  | group => ["id", "builds", "versions", "rules"]
  | range => ["from", "from_", "to"]
  | rules => ["event_id", "event_data", "enums", "regexps"]
  | shared => ["enums", "regexps"]
  | list _ => []

inductive Field : Kind → String → Kind → Prop
  | groups : Field .document "groups" (.list .group)
  | shared : Field .document "rules" .shared
  | builds : Field .group "builds" (.list .range)
  | versions : Field .group "versions" (.list .range)
  | rules : Field .group "rules" .rules

def Result : Kind → Type
  | document => Descriptors
  | group => GroupDescriptor
  | range => Range
  | rules => Option RuleDescriptor
  | shared => RuleData
  | list k => List k.Result

def read : (k : Kind) → Value → Loaded k.Result
  | document => descriptors
  | group => groupDescriptor
  | range => Load.range
  | rules => nullable ruleDescriptor
  | shared => ruleData
  | list k => items k.read

end Kind

/-- One entry was added under a name that is not asked for, in the object itself or in one of the
objects inside. -/
inductive Widens : Kind → Value → Value → Prop
  | entry {k before after name v} : name ∉ k.names →
      Widens k (.map (before ++ after)) (.map (before ++ (.text name, v) :: after))
  | field {k k' before after name v w} : k.Field name k' → Widens k' v w →
      Widens k (.map (before ++ (.text name, v) :: after))
        (.map (before ++ (.text name, w) :: after))
  | list {k before after v w} : Widens k v w →
      Widens (.list k) (.list (before ++ v :: after)) (.list (before ++ w :: after))
  | tuple {k before after v w} : Widens k v w →
      Widens (.list k) (.tuple (before ++ v :: after)) (.tuple (before ++ w :: after))

theorem Kind.read_insert {k : Kind} {before after : Entries} {name : String} {v : Value}
    (h : name ∉ k.names) :
    k.read (.map (before ++ after)) = k.read (.map (before ++ (.text name, v) :: after)) := by
  have kept {α : Type} {read : Value → Loaded α} {n : String} (hn : n ∈ k.names) :
      SameUnder n read (before ++ after) (before ++ (.text name, v) :: after) :=
    .insert fun he => h (he ▸ hn)
  cases k with
  | document => exact descriptors_congr (kept (by decide)) (kept (by decide))
  | group =>
    exact groupDescriptor_congr (kept (by decide)) (kept (by decide)) (kept (by decide))
      (kept (by decide))
  | range => exact range_congr (kept (by decide)) (kept (by decide)) (kept (by decide))
  | rules =>
    exact rules_congr (kept (by decide)) (kept (by decide)) (kept (by decide)) (kept (by decide))
  | shared => exact ruleData_congr (kept (by decide)) (kept (by decide))
  | list k => rfl

theorem Kind.read_replace {k k' : Kind} {before after : Entries} {name : String} {v w : Value}
    (hf : k.Field name k') (h : k'.read v = k'.read w) :
    k.read (.map (before ++ (.text name, v) :: after)) =
      k.read (.map (before ++ (.text name, w) :: after)) := by
  cases hf with
  | groups => exact descriptors_congr (.replace fun _ => h) (.apart (by decide))
  | shared => exact descriptors_congr (.apart (by decide)) (.replace fun _ => h)
  | builds =>
    exact groupDescriptor_congr (.apart (by decide)) (.replace fun _ => h) (.apart (by decide))
      (.apart (by decide))
  | versions =>
    exact groupDescriptor_congr (.apart (by decide)) (.apart (by decide)) (.replace fun _ => h)
      (.apart (by decide))
  | rules =>
    exact groupDescriptor_congr (.apart (by decide)) (.apart (by decide)) (.apart (by decide))
      (.replace fun _ => h)

theorem Widens.read_eq {k : Kind} {v w : Value} (h : Widens k v w) : k.read v = k.read w := by
  induction h with
  | entry hn => exact Kind.read_insert hn
  | field hf _ ih => exact Kind.read_replace hf ih
  | list _ ih => exact itemsFrom_replace ih 0 _ _
  | tuple _ ih => exact itemsFrom_replace ih 0 _ _

end Load

end Allowlist
