import Allowlist.Proofs.Specifier.Concatenation
import Allowlist.Proofs.Specifier.Unclosed

namespace Allowlist.Specifier

open Pattern

def enumNamed (n : String) : String := "\x7benum#" ++ n ++ "\x7d"

/-- The values that an enumeration has in an expression. -/
def offered (vs : List String) : List String := if vs.isEmpty then [""] else vs

theorem mem_offered {vs : List String} {v : String} :
    v ∈ offered vs ↔ v ∈ vs ∨ vs = [] ∧ v = "" := by
  cases vs with
  | nil => simp [offered]
  | cons w vs => simp [offered]

theorem offered_ne_nil (vs : List String) : offered vs ≠ [] := by
  cases vs with
  | nil => simp [offered]
  | cons w vs => simp [offered]

theorem join_offered (vs : List String) :
    Text.join "|" ((offered vs).map Regexp.literal) = Text.join "|" (vs.map Regexp.literal) := by
  cases vs with
  | nil => rfl
  | cons w vs => rfl

theorem legacy?_append {t v : String} (ht : Escape.legacy? t = none)
    (hv : Escape.legacy? v = none) : Escape.legacy? (t ++ v) = none := by
  simp only [Escape.legacy?, ite_eq_right_iff, reduceCtorEq, imp_false, Bool.not_eq_true,
    String.toList_append, List.any_append, Bool.or_eq_false_iff] at ht hv ⊢
  exact ⟨ht, hv⟩

theorem evaluate_accepted_iff {rule : Rule} {p : String → Bool} {v : String} {ctx : Context}
    (hrule : rule.evaluate v ctx = .ok (Rule.verdictOf (Rule.acceptsEither p v)))
    (hv : Escape.legacy? v = none) : rule.evaluate v ctx = .ok .accepted ↔ p v = true := by
  rw [hrule, Rule.acceptsEither, hv, Bool.or_false]
  cases p v <;> simp [Rule.verdictOf]

variable {n t : String}

theorem enumNamed_eq_text (n : String) : enumNamed n = Part.text ⟨"enum", .named, n⟩ := by
  rw [← String.toList_inj]
  simp [enumNamed, Part.chars, Source.separator]

theorem read?_enumNamed (n : String) : read? (enumNamed n) = some ⟨"enum", .named, n⟩ := by
  rw [enumNamed_eq_text, read?_text isKind_enum]

theorem isClosed_enumNamed (hn : '{' ∉ n.toList) (hn' : '}' ∉ n.toList) :
    IsClosed (enumNamed n).toList := by
  rw [enumNamed_eq_text]
  exact isClosed_text isKind_enum (isBalanced_of_plain hn hn')

theorem parts_append_enumNamed (hn : '{' ∉ n.toList) (hn' : '}' ∉ n.toList) (ht : t ≠ "")
    (hb : '{' ∉ t.toList) : parts (t ++ enumNamed n) = [t, enumNamed n] := by
  have h := partsFrom_closed (isClosed_enumNamed hn hn') (t.toList.reverse ++ []) []
  rw [List.append_nil, List.append_nil, partsFrom_nil, List.reverse_reverse] at h
  have hne : t.toList ≠ [] := by simpa using ht
  rw [parts, String.toList_append, partsFrom_plain hb, List.append_nil, h]
  simp [literalPart, hne]

variable {s : Scope} {vs : List String} {v : String} {ctx : Context}

theorem resolve_enumNamed (hn : '{' ∉ n.toList) (hn' : '}' ∉ n.toList)
    (hvs : s.enum? n = some vs) : resolve s (enumNamed n) = pure (.enum vs) := by
  rw [resolve_of_part (parts_of_isClosed (isClosed_enumNamed hn hn')) (read?_enumNamed n)]
  simp [resolvePart, Part.rule?, Part.enum?, hvs, settle]

theorem read?_of_plain (hb : '{' ∉ t.toList) : read? t = none := by
  cases h : read? t with
  | none => rfl
  | some p =>
    obtain ⟨cs, hcs⟩ := exists_cons_of_read? h
    exact absurd (by simp [hcs]) hb

theorem exists_expression_append (hb : '{' ∉ t.toList) (hvs : s.enum? n = some vs) :
    ∃ e, expression s [t, enumNamed n] = .ok e ∧
      Token.Spells e.toList ([Fragment.text t, .choice (offered vs)].flatMap Fragment.tokens) := by
  obtain ⟨f, hf, hchoice⟩ : ∃ f, fragment? s (enumNamed n) = some f ∧
      Token.Spells f.toList (Fragment.choice (offered vs)).tokens := by
    refine ⟨_, ?_, Fragment.spells_choice (offered vs)⟩
    simp [fragment?, read?_enumNamed, Part.fragment?, Part.enum?, hvs, join_offered]
  have htext : fragment? s t = some (Regexp.literal t) := by rw [fragment?, read?_of_plain hb]
  have hnamed : expression s [enumNamed n] = .ok f :=
    expression_cons_ok.2 ⟨f, "", hf, rfl, String.append_empty.symm⟩
  refine ⟨_, expression_cons_ok.2 ⟨_, f, htext, hnamed, rfl⟩, ?_⟩
  rw [String.toList_append]
  simpa [Fragment.tokens] using (Token.spells_literal t).append hchoice

theorem mem_prod_after_text {us : List String} {u : String} :
    (t ++ u).toList ∈ ([[t], us].map ofTexts).prod ↔ u ∈ us := by
  rw [mem_prod_ofTexts]
  constructor
  · rintro ⟨_, hws, heq⟩
    simp only [List.forall₂_cons_left_iff, List.forall₂_nil_left_iff, List.mem_singleton] at hws
    obtain ⟨_, _, rfl, ⟨u', _, hu', rfl, rfl⟩, rfl⟩ := hws
    obtain rfl : u' = u := by simpa [String.toList_inj] using heq
    exact hu'
  · intro hu
    exact ⟨[t, u], .cons (.head _) (.cons hu .nil), by simp⟩

theorem exists_resolve_append (hn : '{' ∉ n.toList) (hn' : '}' ∉ n.toList) (ht : t ≠ "")
    (hb : '{' ∉ t.toList) (hvs : s.enum? n = some vs) :
    ∃ r : Regexp, resolve s (t ++ enumNamed n) = pure (.regexp r) ∧
      ∀ u, r.accepts (t ++ u) = true ↔ u ∈ offered vs := by
  have hparts := parts_append_enumNamed hn hn' ht hb
  obtain ⟨e, he, htokens⟩ := exists_expression_append hb hvs
  obtain ⟨p, hp, hden⟩ := Fragment.exists_ofText_denotes s.glossary htokens.eq
    (by simp [Fragment.texts, offered_ne_nil])
  refine ⟨⟨e, p⟩, ?_, fun u => (hden.matchesAll_iff _).trans mem_prod_after_text⟩
  rw [resolve_of_two (by simp [hparts]) ⟨enumNamed n, by simp [hparts, read?_enumNamed]⟩, hparts,
    resolveExpression, he]
  simp only [Regexp.compile, hp]
  rfl

/-- A named enumeration accepts a text just if it accepts, after another text, both together; but
after another text an enumeration without values accepts the empty text. Texts are meant that older
rules know as they are. -/
theorem enumeration_after_text (hn : '{' ∉ n.toList) (hn' : '}' ∉ n.toList)
    (hvs : s.enum? n = some vs) (ht : t ≠ "") (hb : '{' ∉ t.toList)
    (htl : Escape.legacy? t = none) (hvl : Escape.legacy? v = none) :
    Accepts s (t ++ enumNamed n) (t ++ v) ctx ↔
      Accepts s (enumNamed n) v ctx ∨ vs = [] ∧ v = "" := by
  obtain ⟨r, hr, haccepts⟩ := exists_resolve_append hn hn' ht hb hvs
  have hnamed := resolve_enumNamed (s := s) hn hn' hvs
  rw [accepts_iff (congrArg Building.result hr), accepts_iff (congrArg Building.result hnamed),
    evaluate_accepted_iff rfl (legacy?_append htl hvl), evaluate_accepted_iff rfl hvl, haccepts,
    mem_offered, List.contains_iff_mem]

theorem sampleEnumeration_after_text :
    '{' ∉ "n".toList ∧ '}' ∉ "n".toList ∧ sampleScope.enum? "n" = some ["(|)", "é"] ∧
      "x." ≠ "" ∧ '{' ∉ "x.".toList ∧ Escape.legacy? "x." = none ∧ Escape.legacy? "(|)" = none ∧
      Accepts sampleScope (enumNamed "n") "(|)" ⟨"", none⟩ ∧
      Accepts sampleScope ("x." ++ enumNamed "n") ("x." ++ "(|)") ⟨"", none⟩ := by
  have hn : '{' ∉ "n".toList := by decide
  have hn' : '}' ∉ "n".toList := by decide
  have hvs : sampleScope.enum? "n" = some ["(|)", "é"] := rfl
  have hb : '{' ∉ "x.".toList := by decide
  have htl : Escape.legacy? "x." = none := by decide
  have hvl : Escape.legacy? "(|)" = none := by decide
  have hnamed := congrArg Building.result (resolve_enumNamed hn hn' hvs)
  have halone : Accepts sampleScope (enumNamed "n") "(|)" ⟨"", none⟩ := (accepts_iff hnamed).2 rfl
  exact ⟨hn, hn', hvs, by decide, hb, htl, hvl, halone,
    (enumeration_after_text hn hn' hvs (by decide) hb htl hvl).2 (.inl halone)⟩

def emptyScope : Scope := ⟨⟨[("n", [])], []⟩, .empty, [], fun _ => none⟩

theorem empty_enumeration_accepts :
    emptyScope.enum? "n" = some [] ∧ Escape.legacy? "a" = none ∧ Escape.legacy? "" = none ∧
      Accepts emptyScope ("a" ++ enumNamed "n") ("a" ++ "") ⟨"", none⟩ ∧
      ¬Accepts emptyScope (enumNamed "n") "" ⟨"", none⟩ := by
  have hn : '{' ∉ "n".toList := by decide
  have hn' : '}' ∉ "n".toList := by decide
  have hvs : emptyScope.enum? "n" = some [] := rfl
  have hempty : Escape.legacy? "" = none := by decide
  obtain ⟨r, hr, haccepts⟩ := exists_resolve_append hn hn' (by decide : "a" ≠ "") (by decide) hvs
  refine ⟨hvs, by decide, hempty, ?_, ?_⟩
  · rw [accepts_iff (congrArg Building.result hr), evaluate_accepted_iff rfl (by decide), haccepts]
    exact .head _
  · rw [accepts_iff (congrArg Building.result (resolve_enumNamed hn hn' hvs)),
      evaluate_accepted_iff rfl hempty]
    decide

end Allowlist.Specifier
