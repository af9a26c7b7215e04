import Allowlist.Proofs.Specifier.Partition
import Allowlist.Proofs.Specifier.Written

namespace Allowlist.Specifier

variable {specifier t : String} {p : Part}

theorem exists_cons_of_read? (h : read? t = some p) : ∃ cs, t.toList = '{' :: cs := by
  obtain ⟨-, -, ht⟩ | ⟨_, ⟨-, -, rfl⟩, ht⟩ := read?_eq_some_iff.1 h
  · exact ⟨_, ht⟩
  · exact ⟨_, ht⟩

theorem length_body_lt (h : read? t = some p) : p.body.toList.length < t.toList.length := by
  have hlen : p.body.toList.length < p.chars.length := by
    simp [Part.chars]
    omega
  obtain ⟨-, -, ht⟩ | ⟨_, ⟨-, -, rfl⟩, ht⟩ := read?_eq_some_iff.1 h
  · rwa [ht]
  · rw [ht, List.length_append]
    omega

theorem isWritten_of_isClosed (hc : IsClosed t.toList) (h : read? t = some p) :
    p.IsWritten t.toList := by
  obtain h | ⟨cs, h, ht⟩ := read?_eq_some_iff.1 h
  · exact h
  · exfalso
    have hne : cs ≠ [] := by
      rw [h.eq_chars, Part.chars]
      exact List.cons_ne_nil _ _
    have hpos := hc.before cs (ht ▸ List.prefix_append _ _) hne (by simp [ht])
    have hzero := hc.closes
    rw [ht, braceDepth_append] at hzero
    have hnl : braceDepth ['\n'] = 0 := rfl
    omega

theorem mem_parts_iff :
    t ∈ parts specifier ↔ t.toList ∈ partsFrom [] specifier.toList := by
  rw [parts, List.mem_map]
  constructor
  · rintro ⟨cs, hcs, rfl⟩
    rwa [String.toList_ofList]
  · intro h
    exact ⟨_, h, String.ofList_toList⟩

theorem closed_or_last (ht : t ∈ parts specifier) (h : read? t = some p) :
    IsClosed t.toList ∨ (parts specifier).getLast? = some t ∧ IsUnclosed t.toList := by
  obtain ⟨cs, hcs⟩ := exists_cons_of_read? h
  obtain hc | hp | ⟨hlast, plain, tail, heq, hplain, htail⟩ :=
    (isPartition_partsFrom List.not_mem_nil _).mem_cases (mem_parts_iff.1 ht)
  · exact .inl hc
  · exact absurd (by simp [hcs]) hp
  · obtain rfl : plain = [] := by
      cases plain with
      | nil => rfl
      | cons c plain =>
        rw [hcs] at heq
        obtain ⟨rfl, -⟩ := List.cons.inj heq
        exact absurd (.head _) hplain
    refine .inr ⟨?_, heq ▸ htail⟩
    rw [parts, List.getLast?_map, hlast, Option.map_some, String.ofList_toList]

theorem pieces_ne_singleton (h : read? specifier = some p) :
    Text.pieces '|' p.body ≠ [specifier] := by
  intro hpieces
  obtain ⟨ps, hcut⟩ := Text.exists_cut_eq '|' p.body.toList
  rw [Text.pieces, hcut, List.map_cons] at hpieces
  have hle := (List.takeWhile_prefix (l := p.body.toList) (· ≠ '|')).length_le
  have hlt := length_body_lt h
  rw [← (List.cons.inj hpieces).1, String.toList_ofList] at hlt
  omega

def bareScope : Scope := ⟨.empty, .empty, [], fun _ => none⟩

theorem settle_eq_pure {kind : String} {x : Except Pattern.Error Rule} {rule : Rule}
    (h : settle kind specifier x = pure rule) : x = .ok rule := by
  unfold settle at h
  split at h
  · cases h
    rfl
  · cases h
  · cases h

theorem resolvePart_ne_literal (h : read? specifier = some p) :
    resolvePart bareScope specifier p ≠ pure (.enum [specifier]) := by
  intro hr
  unfold resolvePart at hr
  split at hr
  · next r hrule =>
    obtain rfl := settle_eq_pure hr
    unfold Part.rule? at hrule
    split at hrule
    · obtain ⟨vs, hvs, heq⟩ := Option.map_eq_some_iff.1 hrule
      cases heq
      unfold Part.enum? at hvs
      split at hvs
      · exact pieces_ne_singleton h (Option.some.inj hvs)
      · cases hvs
    · split at hrule
      · obtain ⟨e, -, he⟩ := Option.map_eq_some_iff.1 hrule
        obtain ⟨q, -, heq⟩ := exceptMap_ok.1 he
        cases heq
      · split at hrule
        · cases hrule
        · cases hrule
  · cases hr

theorem resolveExpression_ne_literal (s : Scope) (ts : List String) :
    resolveExpression s specifier ts ≠ pure (.enum [specifier]) := by
  unfold resolveExpression
  split
  · intro h
    cases h
  · intro h
    obtain ⟨r, -, hr⟩ := exceptMap_ok.1 (settle_eq_pure h)
    cases hr

theorem resolve_ne_literal (ht : t ∈ parts specifier) (h : read? t = some p) :
    resolve bareScope specifier ≠ pure (.enum [specifier]) := by
  obtain ⟨hunread, -⟩ | ⟨q, -, hread, hr⟩ | ⟨-, -, hr⟩ := resolve_cases _ specifier
  · rw [hunread t ht] at h
    cases h
  · rw [hr]
    exact resolvePart_ne_literal hread
  · rw [hr]
    exact resolveExpression_ne_literal _ _

/-- A specifier without closed parts stands for itself just if it does not end with a text that is
written like a part and never closed. -/
theorem literal_iff_no_unclosed_part
    (hclosed : ∀ t ∈ parts specifier, ∀ p : Part, IsClosed t.toList → ¬p.IsWritten t.toList) :
    (∀ s, resolve s specifier = pure (.enum [specifier])) ↔
      ¬∃ t, ∃ p : Part, (parts specifier).getLast? = some t ∧ IsUnclosed t.toList ∧
        p.IsLine t.toList := by
  constructor
  · rintro hs ⟨t, p, hlast, -, hline⟩
    exact resolve_ne_literal (List.mem_of_getLast? hlast) (read?_eq_some_iff.2 hline) (hs _)
  · intro hopen
    apply resolve_of_unread
    intro t ht
    cases hread : read? t with
    | none => rfl
    | some p =>
      obtain hc | ⟨hlast, hunclosed⟩ := closed_or_last ht hread
      · exact absurd (isWritten_of_isClosed hc hread) (hclosed t ht p hc)
      · exact absurd ⟨t, p, hlast, hunclosed, read?_eq_some_iff.1 hread⟩ hopen

def openText : String := "{x}\x7benum:a"

theorem open_text_is_literal :
    (∀ t ∈ parts openText, ∀ p : Part, IsClosed t.toList → ¬p.IsWritten t.toList) ∧
      ∀ s, resolve s openText = pure (.enum [openText]) := by
  have hread : ∀ t ∈ parts openText, read? t = none := by decide +kernel
  have hclosed : ∀ t ∈ parts openText, ∀ p : Part, IsClosed t.toList →
      ¬p.IsWritten t.toList := by
    intro t ht p _ hw
    have h := read?_eq_some_iff.2 (.inl hw)
    rw [hread t ht] at h
    cases h
  refine ⟨hclosed, (literal_iff_no_unclosed_part hclosed).2 ?_⟩
  rintro ⟨t, p, hlast, -, hline⟩
  have h := read?_eq_some_iff.2 hline
  rw [hread t (List.mem_of_getLast? hlast)] at h
  cases h

def openEnumeration : String := "\x7benum:{a}"

theorem unclosed_enumeration_is_read :
    (∀ t ∈ parts openEnumeration, ∀ p : Part, IsClosed t.toList → ¬p.IsWritten t.toList) ∧
      resolve bareScope openEnumeration = pure (.enum ["\x7ba"]) ∧
      resolve bareScope openEnumeration ≠ pure (.enum [openEnumeration]) := by
  have hparts : parts openEnumeration = [openEnumeration] := by decide +kernel
  have hread : read? openEnumeration = some ⟨"enum", .inline, "\x7ba"⟩ := by decide +kernel
  refine ⟨?_, ?_, resolve_ne_literal (by rw [hparts]; exact .head _) hread⟩
  · intro t ht p hc
    rw [hparts, List.mem_singleton] at ht
    subst ht
    exact absurd hc.closes (by decide)
  · simp only [resolve, hparts, hread, List.all_cons, Option.isNone_some, Bool.false_and,
      Bool.false_eq_true, if_false]
    rfl

end Allowlist.Specifier
