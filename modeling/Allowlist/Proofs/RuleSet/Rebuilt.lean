import Allowlist.Proofs.Merging
import Allowlist.Proofs.RuleSet.Ungoverned

namespace Allowlist.RuleSet

variable {r : RuleSet} {ctx : Context} {path : String}

structure KeepsKey (r : RuleSet) (path : String) (e f : Key × Value) : Prop where
  ungoverned : r.UngovernedEntry path e → f.1 = .text undefinedName
  governed : ¬ r.UngovernedEntry path e → f.1 = e.1

theorem ChecksEntry.key_eq_or {e f : Key × Value} (h : r.ChecksEntry ctx path e f) :
    f.1 = e.1 ∨ f.1 = .text undefinedName := by
  cases h with
  | named hf => exact hf.name_eq.imp (congrArg Key.text) (congrArg Key.text)
  | unnamed => exact .inl rfl

theorem ChecksEntry.keepsKey {e f : Key × Value} (h : r.ChecksEntry ctx path e f) :
    r.KeepsKey path e f where
  ungoverned := h.key_iff.1
  governed hu := h.key_eq_or.resolve_right fun hf => hu (h.key_iff.2 hf)

theorem onlyRepeats_of_checks {es fs : Entries} (hes : Entries.Distinct es)
    (hfs : List.Forall₂ (r.ChecksEntry ctx path) es fs) :
    Entries.OnlyRepeats undefinedName fs := by
  -- Own keys differ from each other, and from the name that the others take.
  refine hfs.pairwise hes fun e e' f f' hne he he' => ?_
  by_cases hf : f.1 = .text undefinedName
  · by_cases hf' : f'.1 = .text undefinedName
    · exact .inl ⟨hf, hf'⟩
    · right
      rw [hf, ← Bool.not_eq_true, Key.text_same_iff]
      exact hf'
  · right
    by_cases hf' : f'.1 = .text undefinedName
    · rw [hf', ← Bool.not_eq_true, Key.same_text_iff]
      exact hf
    · rwa [he.key_eq_or.resolve_right hf, he'.key_eq_or.resolve_right hf']

/-- Each element is checked in its place. The entries that keep their keys keep their values and
their order too, and the others become one. Where the rules govern a number that is too long nothing
is rebuilt. -/
theorem check_rebuilds (h : r.NeverFails ctx) (hp : r.isExcluded path = false) (name : String) :
    (∀ v vs, v.items? = some vs → r.Writes path v → ∃ name' fs,
      (r.check ctx path name v).result = .ok ⟨name', .list (fs.map (·.value))⟩ ∧
        List.Forall₂ (r.Checks ctx path name) vs fs) ∧
    (∀ es, r.Writes path (.map es) → ∃ name' fs ms,
      (r.check ctx path name (.map es)).result = .ok ⟨name', .map ms⟩ ∧
      List.Forall₂ (r.ChecksEntry ctx path) es fs ∧ List.Forall₂ (r.KeepsKey path) es fs ∧
      Entries.Merges fs ms ∧ (Entries.Distinct es → Entries.Gathers undefinedName fs ms)) ∧
    ∀ v, ¬ r.Writes path v →
      (r.check ctx path name v).result = .error ⟨Text.digitLimit ""⟩ := by
  refine ⟨?_, ?_, fun v hv => h.check_fails hv name⟩
  · intro v vs hi hv
    obtain ⟨f, hf⟩ := h.exists_checks hv name
    obtain ⟨fs, hfs, rfl⟩ := (checks_seq hi hp).1 hf
    exact ⟨_, fs, hf, hfs⟩
  · intro es hv
    obtain ⟨f, hf⟩ := h.exists_checks hv name
    obtain ⟨fs, hfs, rfl⟩ := (checks_map hp).1 hf
    refine ⟨_, fs, _, hf, hfs, hfs.imp fun _ _ => ChecksEntry.keepsKey,
      Entries.merges_ofList fs, fun hes => ?_⟩
    exact (onlyRepeats_of_checks hes hfs).gathers

def mixedEntries : Entries :=
  [(.text "k", .text "v"), (.text "y", .leaf (.int 5)), (.leaf (.int 3), .text "v"),
    (.text "z", .list [.leaf (.int 6), .text ""]), (.text "l", .null)]

def rebuiltEntries : Entries :=
  [(.text "k", .text "v"), (.text undefinedName, .list [Verdict.undefinedRule.value,
    Verdict.undefinedRule.value]), (.leaf (.int 3), Verdict.rejected.value),
    (.text "l", Verdict.rejected.value)]

theorem short_mixedEntries : (Value.map mixedEntries).Short := by
  simp [Value.Short, mixedEntries, Value.leaves, Value.leavesUnder, Value.leavesAll, Leaf.below]
  decide

theorem writes_mixedEntries : looseRules.Writes "a" (.map mixedEntries) :=
  writes_of_short short_mixedEntries

theorem mixedEntries_rebuilt : looseRules.NeverFails ⟨"e", none⟩ ∧
    looseRules.isExcluded "a" = false ∧ looseRules.Writes "a" (.map mixedEntries) ∧
    Entries.Distinct mixedEntries ∧
    (looseRules.check ⟨"e", none⟩ "a" "a" (.map mixedEntries)).result =
      .ok ⟨"a", .map rebuiltEntries⟩ ∧
    ∃ fs, List.Forall₂ (looseRules.KeepsKey "a") mixedEntries fs ∧
      Entries.Gathers undefinedName fs rebuiltEntries := by
  have distinct : Entries.Distinct mixedEntries := by decide
  have hp : looseRules.isExcluded "a" = false := by decide
  have run : (looseRules.check ⟨"e", none⟩ "a" "a" (.map mixedEntries)).result =
      .ok ⟨"a", .map rebuiltEntries⟩ := rfl
  obtain ⟨name, fs, ms, hms, -, keys, -, gathers⟩ :=
    (check_rebuilds looseRules_neverFails hp "a").2.1 mixedEntries writes_mixedEntries
  cases run.symm.trans hms
  exact ⟨looseRules_neverFails, hp, writes_mixedEntries, distinct, run, fs, keys, gathers distinct⟩

theorem longList_is_not_rebuilt : pickyRules.NeverFails ⟨"e", none⟩ ∧
    pickyRules.isExcluded "a" = false ∧ longList.items?.isSome = true ∧
    ¬ ∃ name vs, (pickyRules.check ⟨"e", none⟩ "a" "a" longList).result =
      .ok ⟨name, .list vs⟩ := by
  refine ⟨pickyRules_neverFails, by decide, rfl, ?_⟩
  rintro ⟨name, vs, h⟩
  rw [check_longList] at h
  cases h

end Allowlist.RuleSet
