import Mathlib.Data.List.Forall2
import Allowlist.Proofs.Specifier.Expression
import Allowlist.Proofs.Specifier.Unclosed

/-!
Specifiers that cannot be resolved. They are just those with a part that means nothing in its place,
or with parts that do not make up an expression, and each of them is reported once.
-/

namespace Allowlist

/-- Two stocks of rule data that agree on all names under which `group` declares nothing. -/
structure RuleData.AgreeBeside (group a b : RuleData) : Prop where
  enums : ∀ name, group.enums.lookup name = none → a.enums.lookup name = b.enums.lookup name
  regexps : ∀ name, group.regexps.lookup name = none → a.regexps.lookup name = b.regexps.lookup name

namespace Specifier

inductive Part.HasPattern (s : Scope) : Part → String → Prop
  | inline {kind e} : HasPattern s ⟨kind, .inline, e⟩ e
  | own {kind name e} : s.group.regexps.lookup name = some e → HasPattern s ⟨kind, .named, name⟩ e
  | shared {kind name e} : s.group.regexps.lookup name = none →
      s.shared.regexps.lookup name = some e → HasPattern s ⟨kind, .named, name⟩ e

inductive Part.IsMissing (s : Scope) : Part → Prop
  | enum {name} : s.group.enums.lookup name = none → s.shared.enums.lookup name = none →
      IsMissing s ⟨"enum", .named, name⟩
  | regexp {kind name} : isRegexpKind kind = true → s.group.regexps.lookup name = none →
      s.shared.regexps.lookup name = none → IsMissing s ⟨kind, .named, name⟩

def Part.IsUnknown (p : Part) : Prop := p.kind ∉ ["enum", "regexp", "regex", "util"]

inductive Part.Fails (s : Scope) (p : Part) : Prop
  | missing : p.IsMissing s → Fails s p
  | malformed {e} : isRegexpKind p.kind = true → p.HasPattern s e →
      Regexp.compile s.glossary e = .error .malformed → Fails s p
  | unregistered : p.kind = "util" → p.source = .named → s.utils.lookup p.body = none → Fails s p
  | inlineUtil : p.kind = "util" → p.source = .inline → Fails s p
  | unknown : p.IsUnknown → Fails s p

/-- The part adds nothing to an expression. -/
inductive Part.IsBarred (s : Scope) (p : Part) : Prop
  | missing : p.IsMissing s → IsBarred s p
  | util : p.kind = "util" → IsBarred s p
  | unknown : p.IsUnknown → IsBarred s p

/-- The specifier is a single part that makes no rule, or of several parts one adds nothing, or what
they add up to is no expression. -/
inductive Unresolvable (s : Scope) (specifier : String) : Prop
  | part {p : Part} : parts specifier = [specifier] → p.IsLine specifier.toList → p.Fails s →
      Unresolvable s specifier
  | piece {t} {p : Part} : 2 ≤ (parts specifier).length → t ∈ parts specifier →
      p.IsLine t.toList → p.IsBarred s → Unresolvable s specifier
  | whole {t} {p : Part} {e} : 2 ≤ (parts specifier).length → t ∈ parts specifier →
      p.IsLine t.toList → expression s (parts specifier) = .ok e →
      Regexp.compile s.glossary e = .error .malformed → Unresolvable s specifier

/-- The compiler stops with what is not caught. -/
inductive Stops (s : Scope) (specifier : String) (m : Pattern.Mishap) : Prop
  | part {p : Part} {e} : parts specifier = [specifier] → p.IsLine specifier.toList →
      isRegexpKind p.kind = true → p.HasPattern s e →
      Regexp.compile s.glossary e = .error (.mishap m) → Stops s specifier m
  | whole {t} {p : Part} {e} : 2 ≤ (parts specifier).length → t ∈ parts specifier →
      p.IsLine t.toList → expression s (parts specifier) = .ok e →
      Regexp.compile s.glossary e = .error (.mishap m) → Stops s specifier m

def Adopts (s : Scope) (specifier : String) (r : Rule) : Prop :=
  ∃ name, parts specifier = [specifier] ∧ Part.IsLine ⟨"util", .named, name⟩ specifier.toList ∧
    s.utils.lookup name = some r

variable {s : Scope} {p : Part} {t specifier : String}

theorem Part.kind_cases (p : Part) :
    p.kind = "enum" ∨ isRegexpKind p.kind = true ∨ p.kind = "util" ∨ p.IsUnknown := by
  by_cases h : p.IsUnknown
  · tauto
  · simp only [IsUnknown, List.mem_cons, List.not_mem_nil, or_false, Decidable.not_not] at h
    simp only [isRegexpKind, Bool.or_eq_true, decide_eq_true_eq]
    tauto

theorem Part.IsUnknown.kind_ne (h : p.IsUnknown) :
    p.kind ≠ "enum" ∧ isRegexpKind p.kind = false ∧ p.kind ≠ "util" := by
  simp only [IsUnknown, List.mem_cons, List.not_mem_nil, or_false, not_or] at h
  simp [isRegexpKind, h]

theorem Part.enum?_eq_none_iff (hk : p.kind = "enum") : p.enum? s = none ↔ p.IsMissing s := by
  obtain ⟨kind, source, body⟩ := p
  obtain rfl : kind = "enum" := hk
  constructor
  · intro h
    cases source with
    | inline => cases h
    | named =>
      obtain ⟨hown, hshared⟩ := Option.or_eq_none_iff.1 h
      exact .enum hown hshared
  · intro h
    cases h with
    | enum hown hshared => exact Option.or_eq_none_iff.2 ⟨hown, hshared⟩
    | regexp hk => exact absurd rfl (ne_enum_of_isRegexpKind hk)

theorem Part.regexp?_eq_none_iff (hk : isRegexpKind p.kind = true) :
    p.regexp? s = none ↔ p.IsMissing s := by
  obtain ⟨kind, source, body⟩ := p
  constructor
  · intro h
    cases source with
    | inline => cases h
    | named =>
      obtain ⟨hown, hshared⟩ := Option.or_eq_none_iff.1 h
      exact .regexp hk hown hshared
  · intro h
    cases h with
    | enum => exact absurd rfl (ne_enum_of_isRegexpKind hk)
    | regexp _ hown hshared => exact Option.or_eq_none_iff.2 ⟨hown, hshared⟩

theorem Part.hasPattern_iff {e : String} : p.HasPattern s e ↔ p.regexp? s = some e := by
  obtain ⟨kind, source, body⟩ := p
  constructor
  · intro h
    cases h with
    | inline => rfl
    | own hown => simp [Part.regexp?, Scope.regexp?, hown]
    | shared hown hshared => simp [Part.regexp?, Scope.regexp?, hown, hshared]
  · intro h
    cases source with
    | inline =>
      cases h
      exact .inline
    | named =>
      obtain hown | ⟨hown, hshared⟩ := Option.or_eq_some_iff.1 h
      · exact .own hown
      · exact .shared hown hshared

theorem Part.rule?_enum (hk : p.kind = "enum") :
    p.rule? s = (p.enum? s).map fun vs => .ok (.enum vs) := by
  rw [rule?, if_pos hk]

theorem Part.rule?_regexp (hk : isRegexpKind p.kind = true) :
    p.rule? s = (p.regexp? s).map fun e => (Regexp.compile s.glossary e).map .regexp := by
  rw [rule?, if_neg (ne_enum_of_isRegexpKind hk), if_pos hk]

theorem Part.rule?_util (hk : p.kind = "util") :
    p.rule? s = if p.source = .named then (s.utils.lookup p.body).map .ok else none := by
  simp [rule?, hk, isRegexpKind]

theorem Part.rule?_unknown (hk : p.IsUnknown) : p.rule? s = none := by
  obtain ⟨henum, hregexp, hutil⟩ := hk.kind_ne
  simp [rule?, henum, hregexp, hutil]

theorem Part.Fails.resolvePart (h : p.Fails s) (specifier : String) :
    resolvePart s specifier p = unresolved p.kind specifier := by
  cases h with
  | missing h =>
    cases h with
    | enum hown hshared =>
      rw [Specifier.resolvePart, rule?_enum rfl, (enum?_eq_none_iff rfl).2 (.enum hown hshared)]
      rfl
    | regexp hk hown hshared =>
      rw [Specifier.resolvePart, rule?_regexp hk,
        (regexp?_eq_none_iff hk).2 (.regexp hk hown hshared)]
      rfl
  | malformed hk he hcompile =>
    rw [Specifier.resolvePart, rule?_regexp hk, hasPattern_iff.1 he, Option.map_some, hcompile]
    rfl
  | unregistered hk hsource hutil =>
    rw [Specifier.resolvePart, rule?_util hk, if_pos hsource, hutil]
    rfl
  | inlineUtil hk hsource => rw [Specifier.resolvePart, rule?_util hk, if_neg (by simp [hsource])]
  | unknown hk => rw [Specifier.resolvePart, rule?_unknown hk]

theorem resolvePart_stops {e : String} {m : Pattern.Mishap} (hk : isRegexpKind p.kind = true)
    (he : p.HasPattern s e) (hcompile : Regexp.compile s.glossary e = .error (.mishap m)) :
    resolvePart s specifier p = ⟨[], .error m⟩ := by
  rw [resolvePart, Part.rule?_regexp hk, Part.hasPattern_iff.1 he, Option.map_some, hcompile]
  rfl

inductive Part.Makes (s : Scope) (p : Part) : Rule → Prop
  | enum (vs) : Makes s p (.enum vs)
  | regexp (r) : Makes s p (.regexp r)
  | util {r} : p.kind = "util" → p.source = .named → s.utils.lookup p.body = some r → Makes s p r

theorem resolvePart_of_not_fails (h : ¬p.Fails s) :
    (∃ r, p.Makes s r ∧ resolvePart s specifier p = pure r) ∨
      ∃ e m, isRegexpKind p.kind = true ∧ p.HasPattern s e ∧
        Regexp.compile s.glossary e = .error (.mishap m) := by
  obtain hk | hk | hk | hk := p.kind_cases
  · cases hvs : p.enum? s with
    | none => exact absurd (.missing ((Part.enum?_eq_none_iff hk).1 hvs)) h
    | some vs => exact .inl ⟨_, .enum vs, by rw [resolvePart, Part.rule?_enum hk, hvs]; rfl⟩
  · cases he : p.regexp? s with
    | none => exact absurd (.missing ((Part.regexp?_eq_none_iff hk).1 he)) h
    | some e =>
      have hpattern := Part.hasPattern_iff.2 he
      rcases hcompile : Regexp.compile s.glossary e with (_ | m) | r
      · exact absurd (.malformed hk hpattern hcompile) h
      · exact .inr ⟨e, m, hk, hpattern, hcompile⟩
      · refine .inl ⟨_, .regexp r, ?_⟩
        rw [resolvePart, Part.rule?_regexp hk, he, Option.map_some, hcompile]
        rfl
  · cases hsource : p.source with
    | inline => exact absurd (.inlineUtil hk hsource) h
    | named =>
      cases hr : s.utils.lookup p.body with
      | none => exact absurd (.unregistered hk hsource hr) h
      | some r =>
        refine .inl ⟨r, .util hk hsource hr, ?_⟩
        rw [resolvePart, Part.rule?_util hk, if_pos hsource, hr]
        rfl
  · exact absurd (.unknown hk) h

theorem Part.fragment?_eq_none_iff : p.fragment? s = none ↔ p.IsBarred s := by
  obtain hk | hk | hk | hk := p.kind_cases
  · rw [fragment?, if_pos hk, Option.map_eq_none_iff, enum?_eq_none_iff hk]
    refine ⟨.missing, fun h => ?_⟩
    cases h with
    | missing h => exact h
    | util hutil => exact absurd (hk.symm.trans hutil) (by decide)
    | unknown hunknown => exact absurd hk hunknown.kind_ne.1
  · rw [fragment?, if_neg (ne_enum_of_isRegexpKind hk), if_pos hk, Option.map_eq_none_iff,
      regexp?_eq_none_iff hk]
    refine ⟨.missing, fun h => ?_⟩
    cases h with
    | missing h => exact h
    | util hutil => exact absurd hutil (ne_util_of_isRegexpKind hk)
    | unknown hunknown => exact absurd hk (by simp [hunknown.kind_ne.2.1])
  · exact iff_of_true (by simp [fragment?, hk, isRegexpKind]) (.util hk)
  · obtain ⟨henum, hregexp, -⟩ := hk.kind_ne
    exact iff_of_true (by simp [fragment?, henum, hregexp]) (.unknown hk)

theorem fragment?_eq_none_iff :
    fragment? s t = none ↔ ∃ p : Part, p.IsLine t.toList ∧ p.IsBarred s := by
  simp only [← read?_eq_some_iff, ← Part.fragment?_eq_none_iff, fragment?]
  cases read? t with
  | none => simp
  | some p => simp

theorem exists_expression_iff {ts : List String} :
    (∃ e, expression s ts = .ok e) ↔ ∀ t ∈ ts, fragment? s t ≠ none := by
  induction ts with
  | nil => simp [expression]
  | cons t ts ih =>
    rw [List.forall_mem_cons, ← ih, Option.ne_none_iff_exists']
    simp only [expression_cons_ok]
    constructor
    · rintro ⟨_, f, e, hf, he, rfl⟩
      exact ⟨⟨f, hf⟩, e, he⟩
    · rintro ⟨⟨f, hf⟩, e, he⟩
      exact ⟨_, f, e, hf, he, rfl⟩

theorem not_isLine_of_unread (h : ∀ t ∈ parts specifier, read? t = none)
    (ht : t ∈ parts specifier) (p : Part) : ¬p.IsLine t.toList := by
  intro hp
  rw [← read?_eq_some_iff, h t ht] at hp
  cases hp

theorem not_unresolvable_of_unread (h : ∀ t ∈ parts specifier, read? t = none) :
    ¬Unresolvable s specifier := by
  intro hs
  cases hs with
  | part hparts hp _ => exact not_isLine_of_unread h (mem_parts_of_part hparts) _ hp
  | piece _ ht hp _ => exact not_isLine_of_unread h ht _ hp
  | whole _ ht hp _ _ => exact not_isLine_of_unread h ht _ hp

theorem unresolvable_part_iff (hparts : parts specifier = [specifier])
    (hread : read? specifier = some p) : Unresolvable s specifier ↔ p.Fails s := by
  constructor
  · intro hs
    cases hs with
    | part _ hp hfails =>
      rw [← read?_eq_some_iff, hread] at hp
      cases hp
      exact hfails
    | piece hlen => simp [hparts] at hlen
    | whole hlen => simp [hparts] at hlen
  · exact .part hparts (read?_eq_some_iff.1 hread)

theorem unresolvable_several_iff (hlen : 2 ≤ (parts specifier).length)
    (hread : ∃ t ∈ parts specifier, (read? t).isSome = true) :
    Unresolvable s specifier ↔ ∀ e, expression s (parts specifier) = .ok e →
      Regexp.compile s.glossary e = .error .malformed := by
  constructor
  · intro hs e he
    cases hs with
    | part hparts => simp [hparts] at hlen
    | piece _ ht hp hbarred =>
      exact absurd (fragment?_eq_none_iff.2 ⟨_, hp, hbarred⟩) (exists_expression_iff.1 ⟨e, he⟩ _ ht)
    | whole _ _ _ he' hcompile =>
      obtain rfl := Except.ok.inj (he.symm.trans he')
      exact hcompile
  · intro h
    by_cases hex : ∃ e, expression s (parts specifier) = .ok e
    · obtain ⟨t, ht, hsome⟩ := hread
      obtain ⟨p, hp⟩ := Option.isSome_iff_exists.1 hsome
      obtain ⟨e, he⟩ := hex
      exact .whole hlen ht (read?_eq_some_iff.1 hp) he (h e he)
    · rw [exists_expression_iff] at hex
      push Not at hex
      obtain ⟨t, ht, hnone⟩ := hex
      obtain ⟨p, hp, hbarred⟩ := fragment?_eq_none_iff.1 hnone
      exact .piece hlen ht hp hbarred

theorem resolve_unresolvable (h : Unresolvable s specifier) :
    ∃ kind, resolve s specifier = unresolved kind specifier := by
  obtain ⟨hunread, -⟩ | ⟨p, hparts, hread, hr⟩ | ⟨hlen, hread, hr⟩ := resolve_cases s specifier
  · exact absurd h (not_unresolvable_of_unread hunread)
  · rw [unresolvable_part_iff hparts hread] at h
    exact ⟨p.kind, hr.trans (h.resolvePart specifier)⟩
  · rw [unresolvable_several_iff hlen hread] at h
    rw [hr, resolveExpression]
    cases he : expression s (parts specifier) with
    | error kind => exact ⟨kind, rfl⟩
    | ok e =>
      refine ⟨"expression", ?_⟩
      simp only [h e he]
      rfl

theorem resolve_stops {m : Pattern.Mishap} (h : Stops s specifier m) :
    resolve s specifier = ⟨[], .error m⟩ := by
  cases h with
  | part hparts hline hk he hcompile =>
    rw [resolve_of_part hparts (read?_eq_some_iff.2 hline), resolvePart_stops hk he hcompile]
  | whole hlen ht hline he hcompile =>
    have hread := Option.isSome_iff_exists.2 ⟨_, read?_eq_some_iff.2 hline⟩
    rw [resolve_of_two hlen ⟨_, ht, hread⟩, resolveExpression, he]
    simp only [hcompile]
    rfl

theorem resolve_resolvable (h : ¬Unresolvable s specifier) (hs : ∀ m, ¬Stops s specifier m) :
    ∃ r, resolve s specifier = pure r ∧
      ((∃ vs, r = .enum vs) ∨ (∃ e, r = .regexp e) ∨ Adopts s specifier r) := by
  obtain ⟨-, hr⟩ | ⟨p, hparts, hread, hr⟩ | ⟨hlen, hread, hr⟩ := resolve_cases s specifier
  · exact ⟨_, hr, .inl ⟨_, rfl⟩⟩
  · rw [unresolvable_part_iff hparts hread] at h
    have hline := read?_eq_some_iff.1 hread
    obtain ⟨r, hmakes, hpart⟩ | ⟨e, m, hk, he, hcompile⟩ := resolvePart_of_not_fails h
    · refine ⟨r, hr.trans hpart, ?_⟩
      cases hmakes with
      | enum vs => exact .inl ⟨vs, rfl⟩
      | regexp e => exact .inr (.inl ⟨e, rfl⟩)
      | util hk hsource hutil =>
        obtain ⟨kind, source, name⟩ := p
        obtain rfl : kind = "util" := hk
        obtain rfl : source = .named := hsource
        exact .inr (.inr ⟨name, hparts, hline, hutil⟩)
    · exact absurd (.part hparts hline hk he hcompile) (hs m)
  · rw [unresolvable_several_iff hlen hread] at h
    push Not at h
    obtain ⟨e, he, hne⟩ := h
    obtain ⟨t, ht, hsome⟩ := hread
    obtain ⟨p, hp⟩ := Option.isSome_iff_exists.1 hsome
    rcases hcompile : Regexp.compile s.glossary e with (_ | m) | r
    · exact absurd hcompile hne
    · exact absurd (.whole hlen ht (read?_eq_some_iff.1 hp) he hcompile) (hs m)
    · refine ⟨.regexp r, ?_, .inr (.inl ⟨r, rfl⟩)⟩
      rw [hr, resolveExpression, he]
      simp only [hcompile]
      rfl

theorem stops_iff {m : Pattern.Mishap} :
    Stops s specifier m ↔ (resolve s specifier).result = .error m := by
  constructor
  · intro h
    rw [resolve_stops h]
  · intro h
    by_contra hno
    by_cases hu : Unresolvable s specifier
    · obtain ⟨kind, hr⟩ := resolve_unresolvable hu
      simp [hr, unresolved] at h
    · by_cases hs : ∃ m', Stops s specifier m'
      · obtain ⟨m', hs⟩ := hs
        rw [resolve_stops hs] at h
        cases h
        exact hno hs
      · obtain ⟨r, hr, -⟩ := resolve_resolvable hu (not_exists.1 hs)
        simp [hr] at h

theorem unresolvable_iff_notices :
    (resolve s specifier).notices.isEmpty = false ↔ Unresolvable s specifier := by
  by_cases h : Unresolvable s specifier
  · obtain ⟨kind, hr⟩ := resolve_unresolvable h
    simp [hr, unresolved, h]
  · refine iff_of_false ?_ h
    by_cases hs : ∃ m, Stops s specifier m
    · obtain ⟨m, hs⟩ := hs
      simp [resolve_stops hs]
    · obtain ⟨r, hr, -⟩ := resolve_resolvable h (not_exists.1 hs)
      simp [hr]

instance (s : Scope) (specifier : String) : Decidable (Unresolvable s specifier) :=
  decidable_of_iff _ unresolvable_iff_notices

theorem not_adopts (h : Unresolvable s specifier) (r : Rule) : ¬Adopts s specifier r := by
  rintro ⟨name, hparts, hline, hutil⟩
  rw [unresolvable_part_iff hparts (read?_eq_some_iff.2 hline)] at h
  have hr := h.resolvePart specifier
  rw [resolvePart, Part.rule?_util rfl, if_pos rfl, hutil] at hr
  cases hr

theorem stands_in_iff {r : Rule} (hr : (resolve s specifier).result = .ok r) :
    r = .incorrect specifier ∧ ¬Adopts s specifier r ↔ Unresolvable s specifier := by
  constructor
  · rintro ⟨rfl, hown⟩
    by_contra h
    have hs : ∀ m, ¬Stops s specifier m := by
      intro m hs
      rw [stops_iff, hr] at hs
      cases hs
    obtain ⟨r', hr', hr'cases⟩ := resolve_resolvable h hs
    rw [hr'] at hr
    cases hr
    obtain ⟨vs, heq⟩ | ⟨e, heq⟩ | hadopts := hr'cases
    · cases heq
    · cases heq
    · exact hown hadopts
  · intro h
    obtain ⟨kind, hr'⟩ := resolve_unresolvable h
    rw [hr'] at hr
    cases hr
    exact ⟨rfl, not_adopts h _⟩

theorem flatMap_notices {specifiers : List String} :
    ∃ us : List Unresolved,
      specifiers.flatMap (fun t => (resolve s t).notices) = us.map .specifierUnresolved ∧
      us.map (·.specifier) = specifiers.filter (Unresolvable s ·) := by
  induction specifiers with
  | nil => exact ⟨[], rfl, rfl⟩
  | cons t ts ih =>
    obtain ⟨us, hus, hfilter⟩ := ih
    rw [List.flatMap_cons, hus, List.filter_cons, ← hfilter]
    by_cases h : Unresolvable s t
    · obtain ⟨kind, hr⟩ := resolve_unresolvable h
      exact ⟨⟨kind, t⟩ :: us, by simp [hr, unresolved], by simp [h]⟩
    · have hempty : (resolve s t).notices = [] := by
        simpa [← unresolvable_iff_notices] using h
      exact ⟨us, by simp [hempty], by simp [h]⟩

theorem exists_chain_iff {specifiers : List String} :
    (∃ rules, (chain s specifiers).result = .ok rules) ↔
      ∀ t ∈ specifiers, ∀ m, ¬Stops s t m := by
  rw [chain, Building.exists_mapM_iff]
  apply forall₂_congr
  intro t _
  simp only [stops_iff]
  cases (resolve s t).result <;> simp

/-- A specifier gets the rule that stands in for it just if it cannot be resolved, and just these
specifiers are reported, in order; what a group declares hides what all groups share. -/
theorem unresolvable_reported_once (s : Scope) (specifiers : List String)
    (hs : ∀ t ∈ specifiers, ∀ m, ¬Stops s t m) :
    (∃ rules, ∃ us : List Unresolved,
      chain s specifiers = ⟨us.map .specifierUnresolved, .ok rules⟩ ∧
      List.Forall₂ (fun t r => r = .incorrect t ∧ ¬Adopts s t r ↔ Unresolvable s t)
        specifiers rules ∧
      us.map (·.specifier) = specifiers.filter (Unresolvable s ·)) ∧
    ∀ shared : RuleData, s.group.AgreeBeside shared s.shared →
      chain { s with shared } specifiers = chain s specifiers := by
  constructor
  · obtain ⟨rules, hrules⟩ := exists_chain_iff.2 hs
    obtain ⟨us, hus, hfilter⟩ := @flatMap_notices s specifiers
    refine ⟨rules, us, ?_, ?_, hfilter⟩
    · rw [← hus, ← Building.mapM_notices hrules, ← hrules]
      rfl
    · exact (Building.mapM_result_ok.1 hrules).imp fun _ _ => stands_in_iff
  · intro shared hagree
    have henum : ∀ name, Scope.enum? { s with shared } name = s.enum? name := by
      intro name
      cases hown : s.group.enums.lookup name with
      | none => simp only [Scope.enum?, hown, hagree.enums name hown]
      | some vs => simp only [Scope.enum?, hown, Option.some_or]
    have hregexp : ∀ name, Scope.regexp? { s with shared } name = s.regexp? name := by
      intro name
      cases hown : s.group.regexps.lookup name with
      | none => simp only [Scope.regexp?, hown, hagree.regexps name hown]
      | some e => simp only [Scope.regexp?, hown, Option.some_or]
    rw [chain, chain, resolve_congr henum hregexp rfl rfl]

def hidingScope : Scope :=
  ⟨⟨[("n", [])], [("e", "(")]⟩, ⟨[("n", ["a"])], [("e", "a")]⟩, [("u", .incorrect "{util#u}")],
    fun _ => none⟩

def mixedSpecifiers : List String :=
  ["{enum#n}", "{regexp#e}", "{util#u}", "x{util#u}", "x{regexp#e}", "{enum#m}", "{x}"]

theorem mixedSpecifiers_reported :
    (∀ t ∈ mixedSpecifiers, ∀ m, ¬Stops hidingScope t m) ∧
      hidingScope.group.AgreeBeside .empty hidingScope.shared ∧
      chain { hidingScope with shared := .empty } mixedSpecifiers =
        chain hidingScope mixedSpecifiers ∧
      ∃ rules, ∃ us : List Unresolved, chain hidingScope mixedSpecifiers =
          ⟨us.map .specifierUnresolved, .ok rules⟩ ∧
        us.map (·.specifier) = ["{regexp#e}", "x{util#u}", "x{regexp#e}", "{enum#m}"] := by
  have hagree : hidingScope.group.AgreeBeside .empty hidingScope.shared :=
    ⟨fun _ h => (Named.lookup_singleton_eq_none.2 (Named.lookup_singleton_eq_none.1 h)).symm,
      fun _ h => (Named.lookup_singleton_eq_none.2 (Named.lookup_singleton_eq_none.1 h)).symm⟩
  have hbuilt : ∀ t ∈ mixedSpecifiers, (resolve hidingScope t).result.isOk = true := by
    decide +kernel
  have hs : ∀ t ∈ mixedSpecifiers, ∀ m, ¬Stops hidingScope t m := by
    intro t ht m hm
    have hok := hbuilt t ht
    rw [stops_iff.1 hm] at hok
    cases hok
  obtain ⟨⟨rules, us, hchain, -, hreported⟩, hshared⟩ :=
    unresolvable_reported_once hidingScope mixedSpecifiers hs
  refine ⟨hs, hagree, hshared _ hagree, rules, us, hchain, hreported.trans ?_⟩
  decide +kernel

end Specifier

end Allowlist
