import Mathlib.Data.List.Induction
import Allowlist.Proofs.Specifier.Blocks

namespace Allowlist.Specifier

def IsOpenEnded (t : List Char) : Prop :=
  ∃ plain tail, t = plain ++ tail ∧ '{' ∉ plain ∧ IsUnclosed tail

/-- Closed blocks with literals between them: what is no closed block is a literal. Only the last
literal may have an opening brace. -/
structure IsPartition (ts : List (List Char)) : Prop where
  ne_nil : ∀ t ∈ ts, t ≠ []
  apart : ts.IsChain fun t u => IsClosed t ∨ IsClosed u
  plain : ∀ t ∈ ts.dropLast, IsClosed t ∨ '{' ∉ t
  last : ∀ t ∈ ts.getLast?, IsClosed t ∨ '{' ∉ t ∨ IsOpenEnded t

variable {t u b lit : List Char} {ts : List (List Char)}

theorem isPartition_nil : IsPartition [] := ⟨by simp, .nil, by simp, by simp⟩

theorem isPartition_singleton :
    IsPartition [t] ↔ t ≠ [] ∧ (IsClosed t ∨ '{' ∉ t ∨ IsOpenEnded t) := by
  constructor
  · intro h
    exact ⟨h.ne_nil t (.head _), h.last t rfl⟩
  · rintro ⟨hne, hlast⟩
    exact ⟨by simpa using hne, .singleton t, by simp, by simpa using hlast⟩

theorem isPartition_cons_cons : IsPartition (t :: u :: ts) ↔
    t ≠ [] ∧ (IsClosed t ∨ '{' ∉ t ∧ IsClosed u) ∧ IsPartition (u :: ts) := by
  constructor
  · rintro ⟨hne, hapart, hplain, hlast⟩
    rw [List.forall_mem_cons] at hne
    rw [List.isChain_cons_cons] at hapart
    rw [List.dropLast_cons_cons, List.forall_mem_cons] at hplain
    rw [List.getLast?_cons_cons] at hlast
    exact ⟨hne.1, by tauto, hne.2, hapart.2, hplain.2, hlast⟩
  · rintro ⟨hne, hcut, hnes, hapart, hplain, hlast⟩
    refine ⟨List.forall_mem_cons.2 ⟨hne, hnes⟩, List.isChain_cons_cons.2 ⟨by tauto, hapart⟩, ?_, ?_⟩
    · rw [List.dropLast_cons_cons, List.forall_mem_cons]
      exact ⟨by tauto, hplain⟩
    · rwa [List.getLast?_cons_cons]

theorem IsPartition.of_cons (h : IsPartition (t :: ts)) : IsPartition ts := by
  cases ts with
  | nil => exact isPartition_nil
  | cons u ts => exact (isPartition_cons_cons.1 h).2.2

theorem IsPartition.mem_cases (h : IsPartition ts) (ht : t ∈ ts) :
    IsClosed t ∨ '{' ∉ t ∨ ts.getLast? = some t ∧ IsOpenEnded t := by
  obtain rfl | ⟨init, last, rfl⟩ := ts.eq_nil_or_concat'
  · cases ht
  obtain hinit | hlast := List.mem_append.1 ht
  · have hplain := h.plain t (by rwa [List.dropLast_concat])
    tauto
  · obtain rfl := List.mem_singleton.1 hlast
    have hend : (init ++ [t]).getLast? = some t := List.getLast?_concat
    have hcut := h.last t hend
    tauto

theorem IsClosed.ne_nil (hb : IsClosed b) : b ≠ [] := by
  rintro rfl
  cases hb.opens

theorem IsPartition.closed (hb : IsClosed b) (h : IsPartition ts) : IsPartition (b :: ts) := by
  cases ts with
  | nil => exact isPartition_singleton.2 ⟨hb.ne_nil, .inl hb⟩
  | cons t ts => exact isPartition_cons_cons.2 ⟨hb.ne_nil, .inl hb, h⟩

theorem IsPartition.literal (hlit : '{' ∉ lit) (hb : IsClosed b) (h : IsPartition (b :: ts)) :
    IsPartition (literalPart lit ++ b :: ts) := by
  cases lit with
  | nil => exact h
  | cons c lit => exact isPartition_cons_cons.2 ⟨List.cons_ne_nil c lit, .inr ⟨hlit, hb⟩, h⟩

theorem isPartition_partsFrom (hlit : '{' ∉ lit) (cs : List Char) :
    IsPartition (partsFrom lit cs) := by
  induction cs using blockInduction generalizing lit with
  | nil =>
    rw [partsFrom_nil]
    cases hrev : lit.reverse with
    | nil => exact isPartition_nil
    | cons c cs =>
      refine isPartition_singleton.2 ⟨List.cons_ne_nil c cs, .inr (.inl ?_)⟩
      rwa [← hrev, List.mem_reverse]
  | char c cs hc ih =>
    rw [partsFrom_char hc]
    exact ih (by simp [hlit, Ne.symm hc])
  | unclosed cs h =>
    obtain ⟨ds, rfl, -⟩ := h.exists_cons
    rw [partsFrom_unclosed h]
    exact isPartition_singleton.2 ⟨by simp, .inr (.inr ⟨_, _, rfl, by simpa using hlit, h⟩)⟩
  | closed b rest h ih =>
    rw [partsFrom_closed h]
    exact .literal (by simpa using hlit) h (.closed h (ih List.not_mem_nil))

theorem literalPart_of_ne_nil (h : t ≠ []) : literalPart t = [t] := by
  rw [literalPart, List.isEmpty_eq_false_iff.2 h]
  rfl

theorem partsFrom_flatten (h : IsPartition ts) : partsFrom [] ts.flatten = ts := by
  -- A literal is cut off only where the block behind it begins, so two parts are taken at a time.
  induction ts using List.twoStepInduction with
  | nil => exact partsFrom_nil []
  | singleton t =>
    rw [List.flatten_singleton]
    obtain ⟨hne, hc | hp | ⟨plain, tail, rfl, hplain, htail⟩⟩ := isPartition_singleton.1 h
    · exact partsFrom_of_isClosed hc
    · have hparts := partsFrom_plain hp [] []
      rw [List.append_nil, partsFrom_nil] at hparts
      rw [hparts]
      simp [literalPart_of_ne_nil hne]
    · rw [partsFrom_plain hplain, partsFrom_unclosed htail]
      simp
  | cons_cons t u ts ih ihu =>
    obtain ⟨hne, ht | ⟨hplain, hu⟩, hts⟩ := isPartition_cons_cons.1 h
    · rw [List.flatten_cons, partsFrom_closed ht, ihu u hts]
      rfl
    · rw [List.flatten_cons, List.flatten_cons, partsFrom_plain hplain, partsFrom_closed hu,
        ih hts.of_cons]
      simp [literalPart_of_ne_nil hne]

/-- The parts of a text are closed blocks with literals between them and make up the text, and any
such list that makes up the text is the list of its parts. -/
theorem parts_eq_iff {specifier : String} {ts : List String} :
    parts specifier = ts ↔ IsPartition (ts.map String.toList) ∧ String.join ts = specifier := by
  constructor
  · rintro rfl
    have htexts : (parts specifier).map String.toList = partsFrom [] specifier.toList := by
      simp [parts]
    refine ⟨htexts ▸ isPartition_partsFrom List.not_mem_nil _, String.toList_inj.1 ?_⟩
    rw [String.toList_join, List.flatMap_def, htexts, flatten_partsFrom]
    rfl
  · rintro ⟨hpartition, rfl⟩
    rw [parts, String.toList_join, List.flatMap_def, partsFrom_flatten hpartition]
    simp

end Allowlist.Specifier
