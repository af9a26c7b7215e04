import Allowlist.Proofs.Except
import Allowlist.Proofs.Specifier.Resolution

namespace Allowlist.Specifier

def Source.separator : Source → Char
  | .inline => ':'
  | .named => '#'

theorem source?_eq_some_iff {c : Char} {source : Source} :
    source? c = some source ↔ c = source.separator := by
  unfold source?
  split
  · cases source <;> simp [Source.separator]
  · cases source <;> simp [Source.separator]
  · cases source <;> simp_all [Source.separator]

def Part.chars (p : Part) : List Char :=
  '{' :: p.kind.toList ++ p.source.separator :: p.body.toList ++ ['}']

/-- A text is a part in braces: a kind of small letters and low lines, a separator and a body. -/
structure Part.IsWritten (p : Part) (cs : List Char) : Prop where
  kind_ne : p.kind.toList ≠ []
  kind_chars : ∀ c ∈ p.kind.toList, isKindChar c = true
  eq_chars : cs = p.chars

def Part.IsLine (p : Part) (cs : List Char) : Prop :=
  p.IsWritten cs ∨ ∃ ds, p.IsWritten ds ∧ cs = ds ++ ['\n']

theorem isKindChar_separator (source : Source) : isKindChar source.separator = false := by
  cases source <;> decide

theorem beforeBrace?_eq_some_iff {cs body : List Char} :
    beforeBrace? cs = some body ↔ cs = body ++ ['}'] ∨ cs = body ++ ['}', '\n'] := by
  constructor
  · intro h
    unfold beforeBrace? at h
    split at h
    · next rest hr =>
      cases h
      exact .inl (by rw [← List.reverse_reverse cs, hr, List.reverse_cons])
    · next rest hr =>
      cases h
      exact .inr (by rw [← List.reverse_reverse cs, hr]; simp)
    · cases h
  · rintro (rfl | rfl) <;> simp [beforeBrace?]

theorem takeWhile_kind {kind rest : List Char} {c : Char}
    (hk : ∀ d ∈ kind, isKindChar d = true) (hc : isKindChar c = false) :
    (kind ++ c :: rest).takeWhile isKindChar = kind ∧
      (kind ++ c :: rest).dropWhile isKindChar = c :: rest := by
  rw [List.takeWhile_append_of_pos hk, List.dropWhile_append_of_pos hk,
    List.takeWhile_cons_of_neg (by simp [hc]), List.dropWhile_cons_of_neg (by simp [hc])]
  exact ⟨List.append_nil kind, rfl⟩

theorem read?_of_beforeBrace? {t : String} {p : Part} {rest : List Char}
    (hne : p.kind.toList ≠ []) (hk : ∀ c ∈ p.kind.toList, isKindChar c = true)
    (ht : t.toList = '{' :: (p.kind.toList ++ p.source.separator :: rest))
    (hb : beforeBrace? rest = some p.body.toList) : read? t = some p := by
  obtain ⟨kind, source, body⟩ := p
  obtain ⟨k, ks, hkind⟩ := List.exists_cons_of_ne_nil hne
  obtain rfl : kind = String.ofList (k :: ks) := by rw [← hkind, String.ofList_toList]
  obtain ⟨htake, hdrop⟩ := @takeWhile_kind _ rest _ hk (isKindChar_separator source)
  rw [hkind] at ht htake hdrop
  simp only [read?, ht, htake, hdrop, source?_eq_some_iff.2 rfl, hb, Option.bind_eq_bind,
    Option.bind_some, String.ofList_toList]
  rfl

theorem read?_eq_some_iff {t : String} {p : Part} : read? t = some p ↔ p.IsLine t.toList := by
  constructor
  · intro h
    unfold read? at h
    split at h
    · next cs ht =>
      split at h
      · next k ks c rest htake hdrop =>
        obtain ⟨source, hsource, h⟩ := Option.bind_eq_some_iff.1 h
        obtain ⟨body, hbody, h⟩ := Option.bind_eq_some_iff.1 h
        cases h
        obtain rfl := source?_eq_some_iff.1 hsource
        have hcs : cs = k :: ks ++ source.separator :: rest := by
          rw [← htake, ← hdrop, List.takeWhile_append_dropWhile]
        have hk : ∀ d ∈ k :: ks, isKindChar d = true := by
          intro d hd
          rw [← htake] at hd
          exact List.all_eq_true.1 List.all_takeWhile d hd
        have written : Part.IsWritten ⟨String.ofList (k :: ks), source, String.ofList body⟩
            ('{' :: (k :: ks ++ source.separator :: (body ++ ['}']))) :=
          ⟨by simp, by simpa using hk, by simp [Part.chars]⟩
        rw [ht, hcs]
        obtain rfl | rfl := beforeBrace?_eq_some_iff.1 hbody
        · exact .inl written
        · exact .inr ⟨_, written, by simp⟩
      · cases h
    · cases h
  · rintro (⟨hne, hk, ht⟩ | ⟨cs, ⟨hne, hk, rfl⟩, ht⟩)
    · exact read?_of_beforeBrace? hne hk (by simpa [Part.chars] using ht)
        (beforeBrace?_eq_some_iff.2 (.inl rfl))
    · exact read?_of_beforeBrace? hne hk (by simpa [Part.chars] using ht)
        (beforeBrace?_eq_some_iff.2 (.inr rfl))

variable {s : Scope} {t : String} {p : Part}

def Part.text (p : Part) : String := String.ofList p.chars

@[simp] theorem Part.toList_text (p : Part) : p.text.toList = p.chars := String.toList_ofList

def IsKind (kind : String) : Prop := kind.toList ≠ [] ∧ ∀ c ∈ kind.toList, isKindChar c = true

instance (kind : String) : Decidable (IsKind kind) :=
  decidable_of_iff (kind.toList ≠ [] ∧ kind.toList.all isKindChar = true) <| by
    rw [List.all_eq_true, IsKind]

theorem isKind_enum : IsKind "enum" := by decide

theorem IsKind.not_brace {kind : String} (h : IsKind kind) :
    '{' ∉ kind.toList ∧ '}' ∉ kind.toList :=
  ⟨fun hc => absurd (h.2 _ hc) (by decide), fun hc => absurd (h.2 _ hc) (by decide)⟩

theorem read?_text (h : IsKind p.kind) : read? p.text = some p :=
  read?_eq_some_iff.2 (.inl ⟨h.1, h.2, p.toList_text⟩)

theorem isClosed_text (h : IsKind p.kind) (hbody : IsBalanced p.body.toList) :
    IsClosed p.text.toList := by
  have hhead : IsBalanced (p.kind.toList ++ [p.source.separator]) := by
    apply IsBalanced.append
    · exact isBalanced_of_plain h.not_brace.1 h.not_brace.2
    · cases p.source <;> decide
  have hclosed := isClosed_braces.2 (hhead.append hbody)
  simpa [Part.chars] using hclosed

theorem resolve_text (h : IsKind p.kind) (hbody : IsBalanced p.body.toList) :
    resolve s p.text = resolvePart s p.text p :=
  resolve_of_part (parts_of_isClosed (isClosed_text h hbody)) (read?_text h)

/-- A part that is written with a balanced body is read back; so an enumeration of texts that have
no bar, and an expression, are resolved to just what they were made of. -/
theorem written_part_is_read_back (s : Scope) :
    (∀ p : Part, IsKind p.kind → IsBalanced p.body.toList →
      parts p.text = [p.text] ∧ read? p.text = some p) ∧
    (∀ vs : List String, vs ≠ [] → (∀ v ∈ vs, '|' ∉ v.toList) →
      IsBalanced (Text.join "|" vs).toList →
        resolve s (Part.text ⟨"enum", .inline, Text.join "|" vs⟩) = pure (.enum vs)) ∧
    ∀ e r, IsBalanced e.toList → Regexp.compile s.glossary e = .ok r →
      resolve s (Part.text ⟨"regexp", .inline, e⟩) = pure (.regexp r) ∧ r.source = e := by
  refine ⟨fun p h hbody => ⟨parts_of_isClosed (isClosed_text h hbody), read?_text h⟩, ?_, ?_⟩
  · intro vs hne hbar hbody
    have hpieces : Text.pieces '|' (Text.join "|" vs) = vs := Text.pieces_join hne hbar
    rw [resolve_text isKind_enum hbody]
    simp [resolvePart, Part.rule?, Part.enum?, hpieces, settle]
  · intro e r hbody hcompile
    have hkind : IsKind "regexp" := by decide
    constructor
    · rw [resolve_text hkind hbody]
      simp [resolvePart, Part.rule?, isRegexpKind, Part.regexp?, hcompile, Except.map, settle]
    · obtain ⟨q, -, rfl⟩ := exceptMap_ok.1 hcompile
      rfl

def nestedPart : Part := ⟨"x_", .named, ":#\n{enum:a}"⟩

def bracedValues : List String := ["\x7ba", "b:\n\x7d", ""]

def namedPattern : String := "\\N{EM DASH}{2}"

def dashScope : Scope :=
  ⟨.empty, .empty, [], fun name => if name = "EM DASH" then some '\u2014' else none⟩

theorem nested_part_is_read_back :
    IsKind nestedPart.kind ∧ IsBalanced nestedPart.body.toList ∧
      parts nestedPart.text = [nestedPart.text] ∧ read? nestedPart.text = some nestedPart ∧
    (∀ v ∈ bracedValues, '|' ∉ v.toList) ∧ IsBalanced (Text.join "|" bracedValues).toList ∧
      resolve dashScope (Part.text ⟨"enum", .inline, Text.join "|" bracedValues⟩) =
        pure (.enum bracedValues) ∧
    IsBalanced namedPattern.toList ∧ ∃ r, Regexp.compile dashScope.glossary namedPattern = .ok r ∧
      r.accepts "\u2014\u2014" = true ∧
      resolve dashScope (Part.text ⟨"regexp", .inline, namedPattern⟩) = pure (.regexp r) := by
  obtain ⟨hpart, henum, hregexp⟩ := written_part_is_read_back dashScope
  have hkind : IsKind nestedPart.kind := by decide
  have hbody : IsBalanced nestedPart.body.toList := by decide
  have hbar : ∀ v ∈ bracedValues, '|' ∉ v.toList := by decide
  have hvalues : IsBalanced (Text.join "|" bracedValues).toList := by decide
  have hpattern : IsBalanced namedPattern.toList := by decide
  obtain ⟨r, hr, haccepts⟩ : ∃ r, Regexp.compile dashScope.glossary namedPattern = .ok r ∧
      r.accepts "\u2014\u2014" = true := ⟨_, rfl, by decide +kernel⟩
  obtain ⟨hparts, hread⟩ := hpart nestedPart hkind hbody
  exact ⟨hkind, hbody, hparts, hread, hbar, hvalues, henum _ (by decide) hbar hvalues, hpattern, r,
    hr, haccepts, (hregexp _ r hpattern hr).1⟩

end Allowlist.Specifier
