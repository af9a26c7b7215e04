import Allowlist.Proofs.Building
import Allowlist.Proofs.Specifier.Blocks
import Allowlist.Specifier.Rule

namespace Allowlist.Specifier

variable {s : Scope} {specifier t : String} {p : Part}

theorem parts_of_isClosed (h : IsClosed t.toList) : parts t = [t] := by
  rw [parts, partsFrom_of_isClosed h, List.map_singleton, String.ofList_toList]

theorem eq_of_parts_eq_singleton (h : parts specifier = [t]) : specifier = t := by
  obtain ⟨cs, hcs, rfl⟩ := List.map_eq_singleton_iff.1 h
  have hflat := flatten_partsFrom [] specifier.toList
  rw [hcs, List.flatten_singleton] at hflat
  rw [hflat, List.reverse_nil, List.nil_append, String.ofList_toList]

theorem mem_parts_of_part (hparts : parts specifier = [specifier]) :
    specifier ∈ parts specifier := by
  rw [hparts]
  exact .head _

theorem resolve_of_unread (h : ∀ u ∈ parts specifier, read? u = none) (s : Scope) :
    resolve s specifier = pure (.enum [specifier]) := by
  have hall : ((parts specifier).all fun u => (read? u).isNone) = true := by
    simpa [List.all_eq_true] using h
  simp only [resolve, hall, if_true]

theorem resolve_of_part (hparts : parts t = [t]) (hread : read? t = some p) :
    resolve s t = resolvePart s t p := by
  simp [resolve, hparts, hread]

theorem resolve_of_parts {before after : List String}
    (hparts : parts specifier = before ++ t :: after) (hne : before ++ after ≠ [])
    (ht : read? t = some p) :
    resolve s specifier = resolveExpression s specifier (before ++ t :: after) := by
  have hall : ((before ++ t :: after).all fun u => (read? u).isNone) = false := by simp [ht]
  simp only [resolve, hparts, hall, Bool.false_eq_true, if_false]
  split
  · next hone =>
    have hlen := congrArg List.length hone
    simp only [List.length_append, List.length_cons, List.length_nil] at hlen
    exact absurd (List.eq_nil_of_length_eq_zero (by rw [List.length_append]; omega)) hne
  · rfl

theorem resolve_of_two (hlen : 2 ≤ (parts specifier).length)
    (hread : ∃ t ∈ parts specifier, (read? t).isSome = true) :
    resolve s specifier = resolveExpression s specifier (parts specifier) := by
  obtain ⟨t, ht, hsome⟩ := hread
  obtain ⟨p, hp⟩ := Option.isSome_iff_exists.1 hsome
  obtain ⟨before, after, hparts⟩ := List.append_of_mem ht
  have hne : before ++ after ≠ [] := by
    intro hnil
    rw [List.append_eq_nil_iff] at hnil
    simp [hparts, hnil] at hlen
  rw [hparts]
  exact resolve_of_parts hparts hne hp

theorem resolve_cases (s : Scope) (specifier : String) :
    ((∀ t ∈ parts specifier, read? t = none) ∧ resolve s specifier = pure (.enum [specifier])) ∨
    (∃ p, parts specifier = [specifier] ∧ read? specifier = some p ∧
      resolve s specifier = resolvePart s specifier p) ∨
    2 ≤ (parts specifier).length ∧ (∃ t ∈ parts specifier, (read? t).isSome = true) ∧
      resolve s specifier = resolveExpression s specifier (parts specifier) := by
  by_cases hread : ∃ t ∈ parts specifier, (read? t).isSome = true
  · by_cases hlen : 2 ≤ (parts specifier).length
    · exact .inr (.inr ⟨hlen, hread, resolve_of_two hlen hread⟩)
    · obtain ⟨t, ht, hsome⟩ := hread
      obtain ⟨p, hp⟩ := Option.isSome_iff_exists.1 hsome
      have hpos := List.length_pos_of_mem ht
      obtain ⟨u, hu⟩ := List.length_eq_one_iff.1 (show (parts specifier).length = 1 by omega)
      obtain rfl : t = u := List.mem_singleton.1 (hu ▸ ht)
      obtain rfl := eq_of_parts_eq_singleton hu
      exact .inr (.inl ⟨p, hu, hp, resolve_of_part hu hp⟩)
  · have hunread : ∀ t ∈ parts specifier, read? t = none := by simpa using hread
    exact .inl ⟨hunread, resolve_of_unread hunread s⟩

theorem resolve_congr {s s' : Scope} (henum : ∀ name, s.enum? name = s'.enum? name)
    (hregexp : ∀ name, s.regexp? name = s'.regexp? name) (hutils : s.utils = s'.utils)
    (hglossary : s.glossary = s'.glossary) : resolve s = resolve s' := by
  have penum : ∀ p : Part, p.enum? s = p.enum? s' := fun p => by simp only [Part.enum?, henum]
  have pregexp : ∀ p : Part, p.regexp? s = p.regexp? s' := fun p => by
    simp only [Part.regexp?, hregexp]
  have hexpression : ∀ ts, expression s ts = expression s' ts := by
    intro ts
    induction ts with
    | nil => rfl
    | cons t ts ih => simp only [expression, Part.fragment?, penum, pregexp, ih]
  funext t
  simp only [resolve, resolvePart, resolveExpression, Part.rule?, penum, pregexp, hutils,
    hglossary, hexpression]

def Accepts (s : Scope) (specifier text : String) (ctx : Context) : Prop :=
  ∃ r, (resolve s specifier).result = .ok r ∧ r.evaluate text ctx = .ok .accepted

theorem accepts_iff {r : Rule} {text : String} {ctx : Context}
    (h : (resolve s specifier).result = .ok r) :
    Accepts s specifier text ctx ↔ r.evaluate text ctx = .ok .accepted := by
  simp [Accepts, h]

theorem ne_enum_of_isRegexpKind {kind : String} (h : isRegexpKind kind = true) : kind ≠ "enum" :=
  fun hk => absurd (hk ▸ h) (by decide)

theorem ne_util_of_isRegexpKind {kind : String} (h : isRegexpKind kind = true) : kind ≠ "util" :=
  fun hk => absurd (hk ▸ h) (by decide)

end Allowlist.Specifier
