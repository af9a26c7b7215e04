import Allowlist.Proofs.RuleSet.Congruence

/-!
Checking a field again changes nothing. What stands under a collapsed name is made of marks, so it
stays as it is on every bare path; everything else is checked again under its own name.
-/

namespace Allowlist.RuleSet

variable {r : RuleSet} {ctx : Context} {path name : String}

def Stays (r : RuleSet) (ctx : Context) (path name : String) (v : Value) (m : String) : Prop :=
  r.Checks ctx path name v ⟨m, v⟩

theorem stays_list {ws : List Value} {ms : List String} (hp : r.isExcluded path = false)
    (h : List.Forall₂ (r.Stays ctx path name) ws ms) :
    r.Stays ctx path name (.list ws) (collapse name (ms.map .text)) := by
  have fields : ∃ fs, List.Forall₂ (r.Checks ctx path name) ws fs ∧ fs.map (·.name) = ms ∧
      fs.map (·.value) = ws := by
    induction h with
    | nil => exact ⟨[], .nil, rfl, rfl⟩
    | @cons w m _ _ hw _ ih =>
      obtain ⟨fs, hfs, rfl, rfl⟩ := ih
      exact ⟨⟨m, w⟩ :: fs, .cons hw hfs, rfl, rfl⟩
  obtain ⟨fs, hfs, rfl, rfl⟩ := fields
  refine (checks_seq rfl hp).2 ⟨fs, hfs, ?_⟩
  rw [List.map_map]
  rfl

theorem stays_map {es : Entries} (hp : r.isExcluded path = false) (hd : Entries.Distinct es)
    (h : ∀ e ∈ es, r.ChecksEntry ctx path e e) :
    r.Stays ctx path name (.map es) (collapse name (es.map (·.1))) := by
  refine (checks_map hp).2 ⟨es, List.forall₂_same.2 h, ?_⟩
  rw [Entries.ofList_of_distinct hd]

/-- What a check does to the value of a field that a check at `path` gave. -/
structure Settled (r : RuleSet) (ctx : Context) (path name : String) (f : Field) : Prop where
  name_eq : f.name = name ∨ f.name = undefinedName
  again : ∃ m, r.Stays ctx path name f.value m ∧ (f.name = name → m = name)
  beneath : f.name = undefinedName → ∀ q, r.Bare q →
    r.Stays ctx q undefinedName f.value undefinedName

theorem Settled.stays {f : Field} (h : r.Settled ctx path name f) (hn : f.name = name) :
    r.Stays ctx path name f.value name := by
  obtain ⟨m, hm, hk⟩ := h.again
  exact hk hn ▸ hm

theorem settled_mark {m : String} {u : Verdict} (hm : m = name ∨ m = undefinedName) :
    r.Settled ctx path name ⟨m, u.value⟩ where
  name_eq := hm
  again := ⟨name, checks_mark.2 rfl, fun _ => rfl⟩
  beneath _ _ _ := checks_mark.2 rfl

theorem collapse_eq_undefinedName {ks : List Key} (h : collapse name ks = undefinedName) :
    name = undefinedName ∨ ∀ k ∈ ks, k = .text undefinedName := by
  by_cases hn : name = undefinedName
  · exact .inl hn
  · exact .inr ((collapse_eq_undefinedName_iff hn).1 h).2

theorem collapse_eq_self {ns ms : List String}
    (h : List.Forall₂ (fun n m => (n = name ∨ n = undefinedName) ∧ (n = name → m = name)) ns ms)
    (hk : collapse name (ns.map .text) = name) : collapse name (ms.map .text) = name := by
  by_cases hn : name = undefinedName
  · rw [hn, collapse_undefinedName]
  have governed : allUndefined (ms.map .text) = false := by
    rw [← Bool.not_eq_true]
    intro hms
    rw [allUndefined_iff] at hms
    have hns : allUndefined (ns.map .text) = true := by
      rw [allUndefined_iff]
      constructor
      · rintro hnil
        rw [List.map_eq_nil_iff] at hnil
        subst hnil
        cases h
        exact hms.1 rfl
      · intro k hk
        obtain ⟨n, hn', rfl⟩ := List.mem_map.1 hk
        obtain ⟨m, hm, hnm, hkept⟩ := h.exists_right hn'
        cases hnm with
        | inl hnm =>
          have := hms.2 _ (List.mem_map_of_mem hm)
          rw [hkept hnm, Key.leaf.injEq, Scalar.text.injEq] at this
          exact absurd this hn
        | inr hnm => rw [hnm]
    rw [collapse, if_pos hns] at hk
    exact hn hk.symm
  rw [collapse, governed]
  rfl

theorem settled_seq {fs : List Field} (hp : r.isExcluded path = false)
    (h : ∀ f ∈ fs, r.Settled ctx path name f) :
    r.Settled ctx path name
      ⟨collapse name (fs.map fun f => .text f.name), .list (fs.map (·.value))⟩ where
  name_eq := collapse_eq_or _ _
  again := by
    obtain ⟨ms, hms⟩ := List.Forall₂.of_exists fun f hf => (h f hf).again
    refine ⟨_, stays_list hp (List.forall₂_map_left_iff.2 (hms.imp fun _ _ hm => hm.1)), ?_⟩
    intro (hk : collapse name (fs.map (Key.text ∘ Field.name)) = name)
    rw [← List.map_map] at hk
    refine collapse_eq_self ?_ hk
    rw [List.forall₂_map_left_iff]
    have names := (List.forall₂_and_left _ _).2 ⟨fun f hf => (h f hf).name_eq, hms⟩
    exact names.imp fun _ _ hm => ⟨hm.1, hm.2.2⟩
  beneath hk q hq := by
    have names : ∀ f ∈ fs, f.name = undefinedName := by
      intro f hf
      cases collapse_eq_undefinedName hk with
      | inl hn => simpa [hn] using (h f hf).name_eq
      | inr hks => simpa using hks _ (List.mem_map_of_mem hf)
    have stay : List.Forall₂ (r.Stays ctx q undefinedName) (fs.map (·.value))
        (fs.map fun _ => undefinedName) := by
      rw [List.forall₂_map_left_iff, List.forall₂_map_right_iff, List.forall₂_same]
      exact fun f hf => (h f hf).beneath (names f hf) q hq
    simpa using stays_list hq.isExcluded_eq stay

theorem checksEntry_ofList {q : String} {es : Entries} (h : ∀ e ∈ es, r.ChecksEntry ctx q e e) :
    ∀ e ∈ Entries.ofList es, r.ChecksEntry ctx q e e := by
  intro e he
  cases Entries.mem_ofList_cases he with
  | inl he => exact h e he
  | inr he =>
    obtain ⟨hk, k, hk', he⟩ := he
    obtain ⟨k, v⟩ := e
    cases h _ he with
    | named => simp [Key.isText] at hk'
    | unnamed => exact .unnamed hk

def SettledEntry (r : RuleSet) (ctx : Context) (path : String) (e : Key × Value) : Prop :=
  ∃ e₀, OnEntry (fun k _ f => r.Settled ctx (joinPath path k) k f) e₀ e

theorem SettledEntry.again {e : Key × Value} (hu : r.Bare (joinPath path undefinedName))
    (h : r.SettledEntry ctx path e) : r.ChecksEntry ctx path e e := by
  obtain ⟨e₀, he⟩ := h
  cases he with
  | unnamed hk => exact .unnamed hk
  | @named k _ f hf =>
    refine .named (f := ⟨f.name, f.value⟩) ?_
    cases hf.name_eq with
    | inl hn =>
      rw [hn]
      exact hf.stays hn
    | inr hn =>
      rw [hn]
      exact hf.beneath hn _ hu

theorem SettledEntry.beneath {e : Key × Value} {q : String} (h : r.SettledEntry ctx path e)
    (hn : r.Bare path ∨ e.1 = .text undefinedName) (hq : r.Bare q) : r.ChecksEntry ctx q e e := by
  obtain ⟨e₀, he⟩ := h
  cases he with
  | unnamed hk => exact .unnamed hk
  | @named k _ f hf =>
    refine .named (f := ⟨f.name, f.value⟩) ?_
    by_cases hu : f.name = undefinedName
    · rw [hu]
      exact hf.beneath hu _ (hq.join _)
    · have hk : f.name = k := hf.name_eq.resolve_right hu
      have hp : r.Bare path := hn.resolve_right fun he => hu (by simpa using he)
      have stays : r.Stays ctx (joinPath q k) k f.value k :=
        (hf.stays hk).congr ((hp.join k).alike (hq.join k))
      rw [hk]
      exact stays

theorem settled_map {es : Entries} (hu : r.Bare (joinPath path undefinedName))
    (hp : r.isExcluded path = false) (hn : name = undefinedName → r.Bare path)
    (h : ∀ e ∈ es, r.SettledEntry ctx path e) :
    r.Settled ctx path name ⟨collapse name (es.map (·.1)), .map (Entries.ofList es)⟩ where
  name_eq := collapse_eq_or _ _
  again := by
    refine ⟨_, stays_map hp (Entries.distinct_ofList es) ?_, ?_⟩
    · exact checksEntry_ofList fun e he => (h e he).again hu
    · rw [collapse_ofList]
      exact id
  beneath hk q hq := by
    have entries : ∀ e ∈ es, r.ChecksEntry ctx q e e := by
      intro e he
      refine (h e he).beneath ?_ hq
      cases collapse_eq_undefinedName hk with
      | inl hu => exact .inl (hn hu)
      | inr hks => exact .inr (hks _ (List.mem_map_of_mem he))
    have stays : r.Stays ctx q undefinedName (.map (Entries.ofList es)) (collapse _ _) :=
      stays_map hq.isExcluded_eq (Entries.distinct_ofList es) (checksEntry_ofList entries)
    rwa [collapse_undefinedName] at stays

theorem Checks.settled {v : Value} {f : Field} (hu : ∀ p, r.Bare (joinPath p undefinedName))
    (h : r.Checks ctx path name v f) (hn : name = undefinedName → r.Bare path) :
    r.Settled ctx path name f := by
  induction h using Checks.induction with
  | null path name => exact settled_mark (.inl rfl)
  | mark path name u => exact settled_mark (.inl rfl)
  | excluded path name v hp hv =>
    refine ⟨.inl rfl, ⟨name, (checks_excluded hp hv).2 rfl, fun _ => rfl⟩, fun hu => ?_⟩
    rw [(hn hu).isExcluded_eq] at hp
    cases hp
  | leaf path name s f hs hp hf =>
    cases checksLeaf_iff.1 hf with
    | inl hc =>
      rw [hc.2]
      exact settled_mark (.inr rfl)
    | inr hc =>
      obtain ⟨hc, _, v, _, _, rfl⟩ := hc
      by_cases hv : v = .accepted
      · -- An accepted leaf has a chain, so its path is not bare.
        rw [if_pos hv] at hf ⊢
        refine ⟨.inl rfl, ⟨name, (checks_leaf hs hp).2 hf, fun _ => rfl⟩, fun hu => ?_⟩
        exact absurd (hn hu).chainAt_eq hc
      · rw [if_neg hv]
        exact settled_mark (.inl rfl)
  | seq path name v vs fs hv hp hfs =>
    apply settled_seq hp
    intro f hf
    obtain ⟨v, _, _, ih⟩ := hfs.exists_left hf
    exact ih hn
  | map path name es fs hp hfs =>
    apply settled_map (hu path) hp hn
    intro e he
    obtain ⟨e₀, _, hoe⟩ := hfs.exists_left he
    refine ⟨e₀, hoe.imp fun k _ f ⟨_, ih⟩ => ih ?_⟩
    rintro rfl
    exact hu path

def MentionsUndefined (path : String) : Prop := undefinedName.toList <:+: path.toList

instance : DecidablePred MentionsUndefined := fun path =>
  inferInstanceAs (Decidable (undefinedName.toList <:+: path.toList))

structure AvoidsUndefined (r : RuleSet) : Prop where
  declared : ∀ e ∈ r.fieldRules, ¬ MentionsUndefined e.1
  excluded : ∀ path ∈ r.excluded, ¬ MentionsUndefined path

theorem AvoidsUndefined.bare (h : r.AvoidsUndefined) (hp : MentionsUndefined path) :
    r.Bare path := by
  intro t
  have ht : MentionsUndefined (path ++ t) := by
    rw [MentionsUndefined, String.toList_append]
    exact hp.trans (List.prefix_append _ _).isInfix
  constructor
  · rw [isExcluded, ← Bool.not_eq_true, List.contains_iff_mem]
    exact fun he => h.excluded _ he ht
  · have : r.fieldRules.lookup (path ++ t) = none := by
      rw [List.lookup_eq_none_iff]
      intro e he
      rw [bne_iff_ne]
      intro heq
      exact h.declared e he (heq ▸ ht)
    rw [chainAt, this]
    rfl

theorem mentionsUndefined_joinPath (p : String) :
    MentionsUndefined (joinPath p undefinedName) := by
  rw [MentionsUndefined, joinPath, String.toList_append]
  exact (List.suffix_append _ _).isInfix

theorem AvoidsUndefined.settled (hr : r.AvoidsUndefined) {v : Value} {f : Field}
    (h : r.Checks ctx path name v f) (hn : name = undefinedName → r.Bare path) :
    r.Settled ctx path name f :=
  h.settled (fun p => hr.bare (mentionsUndefined_joinPath p)) hn

theorem AvoidsUndefined.checks_again (hr : r.AvoidsUndefined) {v : Value} {f : Field}
    (h : r.Checks ctx name name v f) : r.Checks ctx f.name f.name f.value f := by
  have bare : r.Bare undefinedName := hr.bare (List.infix_refl _)
  have settled : r.Settled ctx name name f := hr.settled h fun hn => hn ▸ bare
  cases settled.name_eq with
  | inl hn =>
    rw [hn]
    exact hn ▸ settled.stays hn
  | inr hn =>
    rw [hn]
    exact hn ▸ settled.beneath hn _ bare

/-- A field that was checked is checked again to itself. -/
theorem checkField_idempotent (hr : r.AvoidsUndefined) {v : Value} {f : Field}
    (h : (r.checkField ctx name v).result = .ok f) :
    (r.checkField ctx f.name f.value).result = .ok f :=
  hr.checks_again h

def sampleRules : RuleSet := .make [] [("a.k", [.enum ["v"]]), ("a.x", [])] ["a.x"]

def samplePayload : Value :=
  .map [(.text "k", .list [.text "v", .null]), (.text "z", .tuple [.leaf (.int 5)]),
    (.leaf (.int 3), .null), (.text undefinedName, .map [(.text "m", .null)]),
    (.text "x", .tuple [.null])]

def sampleField : Field where
  name := "a"
  value := .map [(.text "k", .list [.text "v", Verdict.rejected.value]),
    (.text undefinedName, .map [(.text "m", Verdict.rejected.value)]),
    (.leaf (.int 3), Verdict.rejected.value), (.text "x", .tuple [.null])]

theorem checkField_samplePayload :
    (sampleRules.checkField ⟨"e", none⟩ "a" samplePayload).result = .ok sampleField ∧
      (sampleRules.checkField ⟨"e", none⟩ "a" sampleField.value).result = .ok sampleField := by
  have h : (sampleRules.checkField ⟨"e", none⟩ "a" samplePayload).result = .ok sampleField := rfl
  exact ⟨h, checkField_idempotent ⟨by decide, by decide⟩ h⟩

end Allowlist.RuleSet
