import Allowlist.Proofs.RuleSet.Total

namespace Allowlist.RuleSet

variable {r : RuleSet} {ctx : Context}

/-- No rule governs anything in a value at a path. A null is governed, and so are marks, values on
excluded paths, containers with nothing in them and maps with keys that are no texts. -/
inductive Ungoverned (r : RuleSet) : String → Value → Prop
  | leaf {path s} : r.isExcluded path = false → (Value.leaf s).isMark = false →
      r.chainAt path = [] → Ungoverned r path (.leaf s)
  | seq {path v vs} : r.isExcluded path = false → v.items? = some vs → vs ≠ [] →
      (∀ w ∈ vs, Ungoverned r path w) → Ungoverned r path v
  | map {path es} : r.isExcluded path = false → es ≠ [] → (∀ e ∈ es, e.1.isText = true) →
      (∀ {k w}, (.text k, w) ∈ es → k ≠ undefinedName → Ungoverned r (joinPath path k) w) →
      Ungoverned r path (.map es)

def UngovernedEntry (r : RuleSet) (path : String) (e : Key × Value) : Prop :=
  ∃ k, e.1 = .text k ∧ (k = undefinedName ∨ r.Ungoverned (joinPath path k) e.2)

namespace Ungoverned

variable {path : String}

theorem isExcluded_eq {v : Value} (h : r.Ungoverned path v) : r.isExcluded path = false := by
  cases h with
  | leaf hp => exact hp
  | seq hp => exact hp
  | map hp => exact hp

theorem not_null : ¬ r.Ungoverned path .null := by
  intro h
  cases h with
  | seq _ hv => cases hv

theorem leaf_iff {s : Scalar} : r.Ungoverned path (.leaf s) ↔
    r.isExcluded path = false ∧ (Value.leaf s).isMark = false ∧ r.chainAt path = [] := by
  constructor
  · intro h
    cases h with
    | leaf hp hs hc => exact ⟨hp, hs, hc⟩
    | seq _ hv => cases hv
  · rintro ⟨hp, hs, hc⟩
    exact .leaf hp hs hc

theorem not_mark (u : Verdict) : ¬ r.Ungoverned path u.value := by
  intro h
  have hu := (leaf_iff.1 h).2.1
  rw [show Value.leaf (.text u.mark) = u.value from rfl, Verdict.value_isMark] at hu
  cases hu

theorem seq_iff {v : Value} {vs : List Value} (hv : v.items? = some vs) : r.Ungoverned path v ↔
    r.isExcluded path = false ∧ vs ≠ [] ∧ ∀ w ∈ vs, r.Ungoverned path w := by
  constructor
  · intro h
    cases h with
    | leaf | map => cases hv
    | seq hp hv' hne h =>
      cases hv.symm.trans hv'
      exact ⟨hp, hne, h⟩
  · rintro ⟨hp, hne, h⟩
    exact .seq hp hv hne h

theorem map_iff {es : Entries} : r.Ungoverned path (.map es) ↔
    r.isExcluded path = false ∧ es ≠ [] ∧ ∀ e ∈ es, r.UngovernedEntry path e := by
  constructor
  · intro h
    cases h with
    | seq _ hv => cases hv
    | map hp hne ht h =>
      refine ⟨hp, hne, fun e he => ?_⟩
      obtain ⟨k, hk⟩ := Key.isText_iff.1 (ht e he)
      refine ⟨k, hk, or_iff_not_imp_left.2 (h ?_)⟩
      rwa [← hk]
  · rintro ⟨hp, hne, h⟩
    refine .map hp hne ?_ ?_
    · intro e he
      obtain ⟨k, hk, _⟩ := h e he
      exact Key.isText_iff.2 ⟨k, hk⟩
    · intro k w he hk
      obtain ⟨_, heq, hu⟩ := h _ he
      cases heq
      exact hu.resolve_left hk

end Ungoverned

theorem ChecksLeaf.name_iff {path name : String} {s : Scalar} {f : Field}
    (h : r.ChecksLeaf ctx path name s f) (hn : name ≠ undefinedName) :
    f.name = undefinedName ↔ r.chainAt path = [] := by
  cases checksLeaf_iff.1 h with
  | inl hc => simp [hc]
  | inr hc =>
    obtain ⟨hc, t, v, -, -, rfl⟩ := hc
    simp [hc, hn]

theorem Checks.value_eq {path name name' : String} {v : Value} {f g : Field}
    (hf : r.Checks ctx path name v f) (hg : r.Checks ctx path name' v g) : f.value = g.value := by
  induction hf using Checks.induction generalizing name' g with
  | null => rw [checks_null.1 hg]
  | mark => rw [checks_mark.1 hg]
  | excluded path name v hp hv => rw [(checks_excluded hp hv).1 hg]
  | leaf path name s f hs hp hf =>
    have hg := (checks_leaf hs hp).1 hg
    cases checksLeaf_iff.1 hf with
    | inl hf =>
      cases checksLeaf_iff.1 hg with
      | inl hg => rw [hf.2, hg.2]
      | inr hg => exact absurd hf.1 hg.1
    | inr hf =>
      cases checksLeaf_iff.1 hg with
      | inl hg => exact absurd hg.1 hf.1
      | inr hg =>
        obtain ⟨-, t, u, ht, hu, rfl⟩ := hf
        obtain ⟨-, t', u', ht', hu', rfl⟩ := hg
        cases ht.symm.trans ht'
        cases hu.symm.trans hu'
        rfl
  | seq path name v vs fs hv hp hfs =>
    obtain ⟨gs, hgs, rfl⟩ := (checks_seq hv hp).1 hg
    have values : fs.map (·.value) = gs.map (·.value) :=
      hfs.map_congr hgs fun _ _ _ ⟨_, ih⟩ hg => ih hg
    rw [values]
  | map path name es fs hp hfs =>
    obtain ⟨gs, hgs, rfl⟩ := (checks_map hp).1 hg
    -- Entries are checked under their own keys, so both runs give the same ones.
    have entries : fs = gs := by
      refine checksEntry_rightUnique.forall₂ (hfs.imp fun _ _ he => ?_) hgs
      exact he.imp fun _ _ _ hf => hf.1
    rw [entries]

theorem OnEntry.key_iff {path : String} {e f : Key × Value}
    (h : OnEntry (fun k v f => (f.name = k ∨ f.name = undefinedName) ∧
      (k ≠ undefinedName → (f.name = undefinedName ↔ r.Ungoverned (joinPath path k) v))) e f) :
    r.UngovernedEntry path e ↔ f.1 = .text undefinedName := by
  cases h with
  | @named k v f h =>
    obtain ⟨hname, h⟩ := h
    by_cases hk : k = undefinedName
    · subst hk
      simpa [UngovernedEntry] using hname
    · simp [UngovernedEntry, hk, h hk]
  | unnamed hk =>
    constructor
    · rintro ⟨k, rfl, _⟩
      cases hk
    · rintro rfl
      cases hk

theorem Checks.name_iff {path name : String} {v : Value} {f : Field}
    (h : r.Checks ctx path name v f) (hn : name ≠ undefinedName) :
    f.name = undefinedName ↔ r.Ungoverned path v := by
  induction h using Checks.induction with
  | null => simp [hn, Ungoverned.not_null]
  | mark path name u => simp [hn, Ungoverned.not_mark]
  | excluded path name v hp =>
    simp only [hn, false_iff]
    intro h
    rw [h.isExcluded_eq] at hp
    cases hp
  | leaf path name s f hs hp hf =>
    rw [hf.name_iff hn, Ungoverned.leaf_iff]
    simp [hs, hp]
  | seq path name v vs fs hv hp hfs =>
    have items : List.Forall₂ (fun w f => r.Ungoverned path w ↔ f.name = undefinedName) vs fs :=
      hfs.imp fun _ _ ⟨_, ih⟩ => (ih hn).symm
    rw [collapse_eq_undefinedName_iff hn, Ungoverned.seq_iff hv, items.forall_iff,
      items.ne_nil_iff]
    simp [hp]
  | map path name es fs hp hfs =>
    have keys : List.Forall₂ (fun e f => r.UngovernedEntry path e ↔ f.1 = .text undefinedName)
        es fs :=
      hfs.imp fun _ _ he => OnEntry.key_iff (he.imp fun _ _ _ ⟨hf, ih⟩ => ⟨hf.name_eq, ih⟩)
    rw [collapse_eq_undefinedName_iff hn, Ungoverned.map_iff, keys.forall_iff, keys.ne_nil_iff]
    simp [hp]

theorem ChecksEntry.key_iff {path : String} {e f : Key × Value}
    (h : r.ChecksEntry ctx path e f) :
    r.UngovernedEntry path e ↔ f.1 = .text undefinedName :=
  OnEntry.key_iff (h.imp fun _ _ _ hf => ⟨hf.name_eq, hf.name_iff⟩)

/-- One value comes out whatever name it is checked under; the name is given up just if nothing in
the value is governed. Where the rules govern a number that is too long there is no name at all. -/
theorem check_renames (h : r.NeverFails ctx) (path : String) (v : Value) :
    (r.Writes path v →
      ∃ w, ∀ name, ∃ name', (r.check ctx path name v).result = .ok ⟨name', w⟩ ∧
        (name ≠ undefinedName → (r.Ungoverned path v → name' = undefinedName) ∧
          (¬ r.Ungoverned path v → name' = name))) ∧
    (¬ r.Writes path v →
      ∀ name, (r.check ctx path name v).result = .error ⟨Text.digitLimit ""⟩) := by
  refine ⟨fun hv => ?_, h.check_fails⟩
  obtain ⟨f, hf⟩ := h.exists_checks hv ""
  refine ⟨f.value, fun name => ?_⟩
  obtain ⟨g, hg⟩ := h.exists_checks hv name
  refine ⟨g.name, ?_, fun hn => ⟨(hg.name_iff hn).2, fun hu => ?_⟩⟩
  · rw [hf.value_eq hg]
    exact hg
  · exact hg.name_eq.resolve_right fun hname => hu ((hg.name_iff hn).1 hname)

def looseRules : RuleSet := .make [] [("a.k", [.enum ["v"]])] ["a.x"]

def loosePayload : Value :=
  .map [(.text "z", .list [.leaf (.int 5), .tuple [.text ""]]), (.text undefinedName, .null)]

theorem looseRules_neverFails : looseRules.NeverFails ctx := by
  simp [looseRules, make, RuleSet.NeverFails, Chain.NeverFails, Rule.NeverFails, Rule.evaluate]

theorem pickyRules_neverFails : pickyRules.NeverFails ctx := by
  simp [pickyRules, make, RuleSet.NeverFails, Chain.NeverFails, Rule.NeverFails, Rule.evaluate]

theorem short_loosePayload : loosePayload.Short := by
  simp [Value.Short, loosePayload, Value.leaves, Value.leavesUnder, Value.leavesAll, Leaf.below]
  decide

theorem writes_loosePayload : looseRules.Writes "a" loosePayload :=
  writes_of_short short_loosePayload

theorem ungoverned_loosePayload : looseRules.Ungoverned "a" loosePayload := by
  have number : looseRules.Ungoverned "a.z" (.leaf (.int 5)) := .leaf (by decide) rfl rfl
  have blank : looseRules.Ungoverned "a.z" (.text "") := .leaf (by decide) (by decide) rfl
  have tuple : looseRules.Ungoverned "a.z" (.tuple [.text ""]) :=
    .seq (by decide) rfl (by simp) (by simpa using blank)
  have list : looseRules.Ungoverned "a.z" (.list [.leaf (.int 5), .tuple [.text ""]]) :=
    .seq (by decide) rfl (by simp) (by simp [number, tuple])
  refine Ungoverned.map_iff.2 ⟨by decide, by simp, ?_⟩
  rw [List.forall_mem_cons, List.forall_mem_singleton]
  exact ⟨⟨"z", rfl, .inr list⟩, ⟨undefinedName, rfl, .inl rfl⟩⟩

theorem loosePayload_renamed : looseRules.NeverFails ⟨"e", none⟩ ∧
    looseRules.Writes "a" loosePayload ∧ looseRules.Ungoverned "a" loosePayload ∧
    ∃ w, (looseRules.check ⟨"e", none⟩ "a" "b" loosePayload).result = .ok ⟨undefinedName, w⟩ := by
  refine ⟨looseRules_neverFails, writes_loosePayload, ungoverned_loosePayload, ?_⟩
  obtain ⟨w, h⟩ := (check_renames looseRules_neverFails "a" loosePayload).1 writes_loosePayload
  obtain ⟨name, hw, h⟩ := h "b"
  rw [(h (by decide)).1 ungoverned_loosePayload] at hw
  exact ⟨w, hw⟩

theorem longList_has_no_name : pickyRules.NeverFails ⟨"e", none⟩ ∧
    ¬ ∃ name w, (pickyRules.check ⟨"e", none⟩ "a" "a" longList).result = .ok ⟨name, w⟩ := by
  refine ⟨pickyRules_neverFails, ?_⟩
  rintro ⟨name, w, h⟩
  rw [check_longList] at h
  cases h

end Allowlist.RuleSet
