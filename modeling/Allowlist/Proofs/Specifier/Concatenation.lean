import Allowlist.Proofs.Lists
import Allowlist.Proofs.Pattern.Language
import Allowlist.Proofs.Specifier.Expression

namespace Allowlist.Specifier

open Pattern

def texts? (s : Scope) (t : String) : Option (List String) :=
  match read? t with
  | none => some [t]
  | some p => if p.kind = "enum" then p.enum? s else none

def Spells (s : Scope) (ts : List String) (text : String) : Prop :=
  ∃ us, List.Forall₂ (fun t u => ∃ vs, texts? s t = some vs ∧ u ∈ vs) ts us ∧
    text = String.join us

variable {s : Scope}

theorem exists_fragment_of_texts? {t : String} {vs : List String} (h : texts? s t = some vs) :
    ∃ e f, fragment? s t = some e ∧ Token.Spells e.toList (Fragment.tokens f) ∧
      f.texts = vs := by
  unfold texts? at h
  split at h
  · next hread =>
    cases h
    exact ⟨_, .text t, by rw [fragment?, hread], Token.spells_literal t, rfl⟩
  · next p hread =>
    split at h
    · next hkind =>
      have hfragment : fragment? s t =
          some ("(?:" ++ Text.join "|" (vs.map Regexp.literal) ++ ")") := by
        simp only [fragment?, hread, Part.fragment?, hkind, if_true, h, Option.map_some]
      exact ⟨_, .choice vs, hfragment, Fragment.spells_choice vs, rfl⟩
    · cases h

theorem exists_fragments_of_texts? {ts : List String} {vss : List (List String)}
    (h : List.Forall₂ (fun t vs => texts? s t = some vs) ts vss) :
    ∃ e, ∃ fs : List Fragment, expression s ts = .ok e ∧
      Token.Spells e.toList (fs.flatMap Fragment.tokens) ∧
        fs.map Fragment.texts = vss := by
  induction h with
  | nil => exact ⟨"", [], rfl, Token.spells_nil, rfl⟩
  | cons ht _ ih =>
    obtain ⟨e, f, he, hf, rfl⟩ := exists_fragment_of_texts? ht
    obtain ⟨es, fs, hes, hfs, rfl⟩ := ih
    refine ⟨e ++ es, f :: fs, expression_cons_ok.2 ⟨e, es, he, hes, rfl⟩, ?_, rfl⟩
    rw [String.toList_append]
    exact hf.append hfs

theorem mem_prod_ofTexts {vss : List (List String)} {cs : List Char} :
    cs ∈ (vss.map ofTexts).prod ↔
      ∃ us, List.Forall₂ (fun vs u => u ∈ vs) vss us ∧ (String.join us).toList = cs := by
  induction vss generalizing cs with
  | nil => simp [Language.mem_one, eq_comm]
  | cons vs vss ih =>
    simp only [List.map_cons, List.prod_cons, Language.mem_mul, mem_ofTexts, ih,
      List.forall₂_cons_left_iff]
    constructor
    · rintro ⟨_, ⟨u, hu, rfl⟩, _, ⟨us, hus, rfl⟩, rfl⟩
      exact ⟨u :: us, ⟨u, us, hu, hus, rfl⟩, by simp⟩
    · rintro ⟨_, ⟨u, us, hu, hus, rfl⟩, rfl⟩
      exact ⟨_, ⟨u, hu, rfl⟩, _, ⟨us, hus, rfl⟩, by simp⟩

theorem spells_iff {ts : List String} {vss : List (List String)}
    (h : List.Forall₂ (fun t vs => texts? s t = some vs) ts vss) (text : String) :
    Spells s ts text ↔ text.toList ∈ (vss.map ofTexts).prod := by
  have choices : ∀ us, List.Forall₂ (fun t u => ∃ vs, texts? s t = some vs ∧ u ∈ vs) ts us ↔
      List.Forall₂ (fun vs u => u ∈ vs) vss us := by
    intro us
    induction h generalizing us with
    | nil => simp
    | cons ht _ ih => simp [List.forall₂_cons_left_iff, ht, ih]
  simp only [Spells, mem_prod_ofTexts, choices, String.toList_inj, @eq_comm _ text]

/-- An expression of texts and enumerations is a rule that accepts a text just if the text, or the
form of it that older rules know, is put together from one text of each part. -/
theorem accepts_concatenations {specifier : String} (hlen : 2 ≤ (parts specifier).length)
    (henum : ∃ t ∈ parts specifier, (read? t).isSome = true)
    (htexts : ∀ t ∈ parts specifier, ∃ vs, texts? s t = some vs ∧ vs ≠ []) :
    ∃ r, resolve s specifier = pure (.regexp r) ∧ ∀ text ctx, ∃ b,
      (Rule.regexp r).evaluate text ctx = .ok (Rule.verdictOf b) ∧
        (b = true ↔ Spells s (parts specifier) text ∨
          ∃ t, Escape.legacy? text = some t ∧ Spells s (parts specifier) t) := by
  obtain ⟨vss, hvss⟩ := List.Forall₂.of_exists htexts
  have htexts : List.Forall₂ (fun t vs => texts? s t = some vs) (parts specifier) vss :=
    hvss.imp fun _ _ h => h.1
  obtain ⟨e, fs, he, hfs, rfl⟩ := exists_fragments_of_texts? htexts
  have hne : ∀ f ∈ fs, f.texts ≠ [] := by
    intro f hf
    obtain ⟨t, -, h⟩ := hvss.exists_left (List.mem_map_of_mem hf)
    exact h.2
  obtain ⟨p, hp, hden⟩ := Fragment.exists_ofText_denotes s.glossary hfs.eq hne
  refine ⟨⟨e, p⟩, ?_, fun text ctx => ⟨_, rfl, ?_⟩⟩
  · rw [resolve_of_two hlen henum, resolveExpression, he]
    simp only [Regexp.compile, hp]
    rfl
  · have accepts : ∀ t, Regexp.accepts ⟨e, p⟩ t = true ↔ Spells s (parts specifier) t := by
      intro t
      rw [spells_iff htexts, List.map_map, Regexp.accepts]
      exact hden.matchesAll_iff t.toList
    cases hl : Escape.legacy? text with
    | none => simp [Rule.acceptsEither, hl, accepts]
    | some t => simp [Rule.acceptsEither, hl, accepts]

def sampleScope : Scope := ⟨⟨[("n", ["(|)", "é"])], []⟩, .empty, [], fun _ => none⟩

def sampleSpecifier : String := "a.{enum#n}{x}{enum:b|}\n"

theorem parts_sampleSpecifier :
    parts sampleSpecifier = ["a.", "{enum#n}", "{x}", "{enum:b|}", "\n"] := by decide +kernel

theorem spells_sampleSpecifier :
    Spells sampleScope (parts sampleSpecifier) "a.(|){x}\n" := by
  rw [parts_sampleSpecifier]
  refine ⟨["a.", "(|)", "{x}", "", "\n"], ?_, by decide +kernel⟩
  refine .cons ⟨["a."], by decide +kernel, by decide⟩ ?_
  refine .cons ⟨["(|)", "é"], by decide +kernel, by decide⟩ ?_
  refine .cons ⟨["{x}"], by decide +kernel, by decide⟩ ?_
  refine .cons ⟨["b", ""], by decide +kernel, by decide⟩ ?_
  exact .cons ⟨["\n"], by decide +kernel, by decide⟩ .nil

theorem sampleSpecifier_accepts : 2 ≤ (parts sampleSpecifier).length ∧
    (∃ t ∈ parts sampleSpecifier, (read? t).isSome = true) ∧
    (∀ t ∈ parts sampleSpecifier, ∃ vs, texts? sampleScope t = some vs ∧ vs ≠ []) ∧
    ∃ r, resolve sampleScope sampleSpecifier = pure (.regexp r) ∧
      ∀ ctx, (Rule.regexp r).evaluate "a.(|){x}\n" ctx = .ok .accepted := by
  have hlen : 2 ≤ (parts sampleSpecifier).length := by rw [parts_sampleSpecifier]; decide
  have henum : ∃ t ∈ parts sampleSpecifier, (read? t).isSome = true := by decide +kernel
  have htexts : ∀ t ∈ parts sampleSpecifier, ∃ vs, texts? sampleScope t = some vs ∧ vs ≠ [] := by
    obtain ⟨us, hus, -⟩ := spells_sampleSpecifier
    intro t ht
    obtain ⟨u, -, vs, hvs, hu⟩ := hus.exists_right ht
    exact ⟨vs, hvs, List.ne_nil_of_mem hu⟩
  obtain ⟨r, hr, accepts⟩ := accepts_concatenations hlen henum htexts
  refine ⟨hlen, henum, htexts, r, hr, fun ctx => ?_⟩
  obtain ⟨b, hb, hiff⟩ := accepts "a.(|){x}\n" ctx
  rw [hb, hiff.2 (.inl spells_sampleSpecifier)]
  rfl

end Allowlist.Specifier
