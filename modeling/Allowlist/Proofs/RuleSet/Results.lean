import Allowlist.Proofs.Entries
import Allowlist.Proofs.Lists
import Allowlist.Proofs.Position
import Allowlist.Proofs.Run
import Allowlist.RuleSet.Walk

/-!
Results of checking values, apart from the calls that were made. `Checks.induction` follows the
policy case by case; the other lemmas state when each case applies.
-/

namespace Allowlist

@[simp] theorem Verdict.value_isMark (u : Verdict) : u.value.isMark = true := isMark_mark u

theorem Value.isMark_iff {v : Value} : v.isMark = true ↔ ∃ u : Verdict, v = u.value := by
  constructor
  · intro h
    cases v with
    | leaf s =>
      cases s with
      | text s =>
        obtain ⟨u, rfl⟩ := Allowlist.isMark_iff.1 h
        exact ⟨u, rfl⟩
      | _ => cases h
    | _ => cases h
  · rintro ⟨u, rfl⟩
    exact u.value_isMark

theorem allUndefined_iff {ks : List Key} :
    allUndefined ks = true ↔ ks ≠ [] ∧ ∀ k ∈ ks, k = .text undefinedName := by
  simp [allUndefined, Key.text_same_iff]

theorem allUndefined_ofList (es : Entries) :
    allUndefined ((Entries.ofList es).map (·.1)) = allUndefined (es.map (·.1)) := by
  rw [Bool.eq_iff_iff, allUndefined_iff, allUndefined_iff]
  constructor
  · rintro ⟨hne, hall⟩
    constructor
    · intro hes
      rw [List.map_eq_nil_iff] at hes
      exact hne (hes ▸ rfl)
    · intro k hk
      obtain ⟨e, he, rfl⟩ := List.mem_map.1 hk
      obtain ⟨k, hk, hs⟩ := Entries.key_ofList he
      obtain rfl := hall k hk
      cases hs with
      | inl hs => exact hs.symm
      | inr hs => exact Key.text_same_iff.1 hs
  · rintro ⟨hne, hall⟩
    constructor
    · intro hes
      obtain ⟨k, hk⟩ := List.exists_mem_of_ne_nil _ hne
      obtain ⟨e, he, rfl⟩ := List.mem_map.1 hk
      obtain ⟨k, hk, _⟩ := Entries.key_ofList he
      rw [hes] at hk
      cases hk
    · intro k hk
      obtain ⟨e, he, rfl⟩ := List.mem_map.1 hk
      exact hall _ (Entries.key_mem_of_mem_ofList he)

theorem collapse_ofList (name : String) (es : Entries) :
    collapse name ((Entries.ofList es).map (·.1)) = collapse name (es.map (·.1)) := by
  rw [collapse, collapse, allUndefined_ofList]

theorem collapse_eq_or (name : String) (ks : List Key) :
    collapse name ks = name ∨ collapse name ks = undefinedName := by
  unfold collapse
  split
  · exact .inr rfl
  · exact .inl rfl

theorem collapse_eq_undefinedName_iff {name : String} {ks : List Key} (hn : name ≠ undefinedName) :
    collapse name ks = undefinedName ↔ ks ≠ [] ∧ ∀ k ∈ ks, k = .text undefinedName := by
  rw [← allUndefined_iff]
  by_cases h : allUndefined ks = true <;> simp [collapse, h, hn]

@[simp] theorem collapse_undefinedName (ks : List Key) :
    collapse undefinedName ks = undefinedName := by
  simp [collapse]

namespace RuleSet

variable {r : RuleSet} {ctx : Context}

def Checks (r : RuleSet) (ctx : Context) (path name : String) (v : Value) (f : Field) : Prop :=
  (r.check ctx path name v).result = .ok f

def ChecksLeaf (r : RuleSet) (ctx : Context) (path name : String) (s : Scalar) (f : Field) : Prop :=
  (r.checkLeaf ctx path name s).result = .ok f

inductive OnEntry (R : String → Value → Field → Prop) : Key × Value → Key × Value → Prop
  | named {k v f} : R k v f → OnEntry R (.text k, v) (.text f.name, f.value)
  | unnamed {k v} : k.isText = false → OnEntry R (k, v) (k, Verdict.rejected.value)

theorem OnEntry.imp {R S : String → Value → Field → Prop} (h : ∀ k v f, R k v f → S k v f)
    {e e' : Key × Value} (he : OnEntry R e e') : OnEntry S e e' := by
  cases he with
  | named hf => exact .named (h _ _ _ hf)
  | unnamed hk => exact .unnamed hk

theorem onEntry_text_iff {R : String → Value → Field → Prop} {k : String} {v : Value}
    {e : Key × Value} : OnEntry R (.text k, v) e ↔ ∃ f, R k v f ∧ e = (.text f.name, f.value) := by
  constructor
  · intro h
    cases h with
    | named hf => exact ⟨_, hf, rfl⟩
    | unnamed hk => cases hk
  · rintro ⟨f, hf, rfl⟩
    exact .named hf

theorem onEntry_unnamed_iff {R : String → Value → Field → Prop} {k : Key} {v : Value}
    {e : Key × Value} (hk : k.isText = false) :
    OnEntry R (k, v) e ↔ e = (k, Verdict.rejected.value) := by
  constructor
  · intro h
    cases h with
    | named => cases hk
    | unnamed => rfl
  · rintro rfl
    exact .unnamed hk

theorem OnEntry.of_isText {R : String → Value → Field → Prop} {e e' : Key × Value}
    (h : OnEntry R e e') (he : e.1.isText = true) :
    ∃ k f, e = (.text k, e.2) ∧ R k e.2 f ∧ e' = (.text f.name, f.value) := by
  cases h with
  | named hf => exact ⟨_, _, rfl, hf, rfl⟩
  | unnamed hk =>
    rw [hk] at he
    cases he

theorem OnEntry.of_eq {R : String → Value → Field → Prop} {e e' : Key × Value}
    (h : OnEntry R e e') (he : e' = e) :
    (∃ k v, e = (.text k, v) ∧ R k v ⟨k, v⟩) ∨
      ∃ k, k.isText = false ∧ e = (k, Verdict.rejected.value) := by
  cases h with
  | @named k v f hf =>
    obtain ⟨name, value⟩ := f
    cases he
    exact .inl ⟨_, _, rfl, hf⟩
  | unnamed hk =>
    cases he
    exact .inr ⟨_, hk, rfl⟩

def ChecksEntry (r : RuleSet) (ctx : Context) (path : String) :
    Key × Value → Key × Value → Prop :=
  OnEntry fun k => r.Checks ctx (joinPath path k) k

theorem checkAll_ok {path name : String} {vs : List Value} {fs : List Field} :
    (r.checkAll ctx path name vs).result = .ok fs ↔
      List.Forall₂ (r.Checks ctx path name) vs fs := by
  induction vs generalizing fs with
  | nil =>
    simp [checkAll, eq_comm]
  | cons v vs ih =>
    simp only [checkAll, Run.bind_result_ok, ih, List.forall₂_cons_left_iff, Run.pure_result,
      Except.ok.injEq, Checks]
    constructor
    · rintro ⟨f, hf, gs, hgs, rfl⟩
      exact ⟨f, gs, hf, hgs, rfl⟩
    · rintro ⟨f, gs, hf, hgs, rfl⟩
      exact ⟨f, hf, gs, hgs, rfl⟩

theorem checkEntries_unnamed {path : String} {k : Key} {v : Value} {es : Entries}
    (hk : k.isText = false) :
    r.checkEntries ctx path ((k, v) :: es) =
      r.checkEntries ctx path es >>= fun fs => pure ((k, Verdict.rejected.value) :: fs) := by
  rw [checkEntries]
  rintro s rfl
  simp [Key.isText] at hk

theorem checkEntries_ok {path : String} {es fs : Entries} :
    (r.checkEntries ctx path es).result = .ok fs ↔
      List.Forall₂ (r.ChecksEntry ctx path) es fs := by
  induction es generalizing fs with
  | nil => simp [checkEntries, eq_comm]
  | cons e es ih =>
    obtain ⟨k, v⟩ := e
    rw [List.forall₂_cons_left_iff]
    by_cases hk : k.isText = true
    · obtain ⟨s, rfl⟩ := Key.isText_iff.1 hk
      simp only [checkEntries, Run.bind_result_ok, ih, Run.pure_result, Except.ok.injEq]
      constructor
      · rintro ⟨f, hf, gs, hgs, rfl⟩
        exact ⟨_, gs, .named hf, hgs, rfl⟩
      · rintro ⟨_, gs, he, hgs, rfl⟩
        cases he with
        | named hf => exact ⟨_, hf, gs, hgs, rfl⟩
        | unnamed hk => simp [Key.isText] at hk
    · rw [Bool.not_eq_true] at hk
      rw [checkEntries_unnamed hk, Run.bind_result_ok]
      simp only [ih, Run.pure_result, Except.ok.injEq]
      constructor
      · rintro ⟨gs, hgs, rfl⟩
        exact ⟨_, gs, .unnamed hk, hgs, rfl⟩
      · rintro ⟨_, gs, he, hgs, rfl⟩
        cases he with
        | named => simp [Key.isText] at hk
        | unnamed => exact ⟨gs, hgs, rfl⟩

section

variable {path name : String}

theorem check_mark (u : Verdict) : r.check ctx path name u.value = pure ⟨name, u.value⟩ := by
  simp [check, Verdict.value, Value.isMark, isMark_mark]

theorem check_excluded {v : Value} (hp : r.isExcluded path = true) (hv : v ≠ .null) :
    r.check ctx path name v = pure ⟨name, v⟩ := by
  cases v with
  | null => exact absurd rfl hv
  | leaf s => simp [check, hp]
  | list vs => simp [check, hp]
  | tuple vs => simp [check, hp]
  | map es => simp [check, hp]

theorem check_leaf {s : Scalar} (hs : (Value.leaf s).isMark = false)
    (hp : r.isExcluded path = false) :
    r.check ctx path name (.leaf s) = r.checkLeaf ctx path name s := by
  simp [check, hs, hp]

theorem check_seq {v : Value} {vs : List Value} (hv : v.items? = some vs)
    (hp : r.isExcluded path = false) :
    r.check ctx path name v = r.checkAll ctx path name vs >>= fun fs =>
      pure ⟨collapse name (fs.map fun f => .text f.name), .list (fs.map (·.value))⟩ := by
  cases Value.items?_eq_some.1 hv with
  | inl hv => simp [hv, check, hp]
  | inr hv => simp [hv, check, hp]

theorem check_map {es : Entries} (hp : r.isExcluded path = false) :
    r.check ctx path name (.map es) = r.checkEntries ctx path es >>= fun fs =>
      pure ⟨collapse name (fs.map (·.1)), .map (Entries.ofList fs)⟩ := by
  simp [check, hp]

theorem checks_null {f : Field} :
    r.Checks ctx path name .null f ↔ f = ⟨name, Verdict.rejected.value⟩ := by
  simp [Checks, check, eq_comm]

theorem checks_mark {u : Verdict} {f : Field} :
    r.Checks ctx path name u.value f ↔ f = ⟨name, u.value⟩ := by
  simp [Checks, check_mark, eq_comm]

theorem checks_excluded {v : Value} {f : Field} (hp : r.isExcluded path = true) (hv : v ≠ .null) :
    r.Checks ctx path name v f ↔ f = ⟨name, v⟩ := by
  simp [Checks, check_excluded hp hv, eq_comm]

theorem checks_leaf {s : Scalar} {f : Field} (hs : (Value.leaf s).isMark = false)
    (hp : r.isExcluded path = false) :
    r.Checks ctx path name (.leaf s) f ↔ r.ChecksLeaf ctx path name s f := by
  rw [Checks, ChecksLeaf, check_leaf hs hp]

theorem checks_seq {v : Value} {vs : List Value} {f : Field} (hv : v.items? = some vs)
    (hp : r.isExcluded path = false) :
    r.Checks ctx path name v f ↔ ∃ fs, List.Forall₂ (r.Checks ctx path name) vs fs ∧
      f = ⟨collapse name (fs.map fun f => .text f.name), .list (fs.map (·.value))⟩ := by
  simp [Checks, check_seq hv hp, Run.bind_result_ok, checkAll_ok, @eq_comm _ f]

theorem checks_map {es : Entries} {f : Field} (hp : r.isExcluded path = false) :
    r.Checks ctx path name (.map es) f ↔ ∃ fs, List.Forall₂ (r.ChecksEntry ctx path) es fs ∧
      f = ⟨collapse name (fs.map (·.1)), .map (Entries.ofList fs)⟩ := by
  simp [Checks, check_map hp, Run.bind_result_ok, checkEntries_ok, @eq_comm _ f]

theorem checkLeaf_governed {s : Scalar} (hc : r.chainAt path ≠ []) :
    r.checkLeaf ctx path name s = (do
      let t ← Run.lift s.ruleText
      let v ← Chain.evaluate t ctx (r.chainAt path)
      pure ⟨name, if v = .accepted then .leaf s else v.value⟩) := by
  unfold checkLeaf
  cases h : r.chainAt path with
  | nil => exact absurd h hc
  | cons rule rules => rfl

theorem checksLeaf_iff {s : Scalar} {f : Field} :
    r.ChecksLeaf ctx path name s f ↔
      (r.chainAt path = [] ∧ f = ⟨undefinedName, Verdict.undefinedRule.value⟩) ∨
      (r.chainAt path ≠ [] ∧ ∃ t v, s.ruleText = .ok t ∧
        (Chain.evaluate t ctx (r.chainAt path)).result = .ok v ∧
          f = ⟨name, if v = .accepted then .leaf s else v.value⟩) := by
  unfold ChecksLeaf
  by_cases hc : r.chainAt path = []
  · simp [checkLeaf, hc, @eq_comm _ f]
  · simp [checkLeaf_governed hc, hc, Run.bind_result_ok, Run.lift, @eq_comm _ f]

end

@[elab_as_elim]
theorem Checks.induction
    {P : ∀ (path name : String) (v : Value) (f : Field), r.Checks ctx path name v f → Prop}
    (null : ∀ path name h, P path name .null ⟨name, Verdict.rejected.value⟩ h)
    (mark : ∀ path name (u : Verdict) h, P path name u.value ⟨name, u.value⟩ h)
    (excluded : ∀ path name v, r.isExcluded path = true → v ≠ .null → ∀ h,
      P path name v ⟨name, v⟩ h)
    (leaf : ∀ path name s f, (Value.leaf s).isMark = false → r.isExcluded path = false →
      r.ChecksLeaf ctx path name s f → ∀ h, P path name (.leaf s) f h)
    (seq : ∀ path name v vs fs, v.items? = some vs → r.isExcluded path = false →
      List.Forall₂ (fun v f => ∃ h, P path name v f h) vs fs → ∀ h,
      P path name v ⟨collapse name (fs.map fun f => .text f.name), .list (fs.map (·.value))⟩ h)
    (map : ∀ path name es fs, r.isExcluded path = false →
      List.Forall₂ (OnEntry fun k v f => ∃ h, P (joinPath path k) k v f h) es fs → ∀ h,
      P path name (.map es) ⟨collapse name (fs.map (·.1)), .map (Entries.ofList fs)⟩ h)
    {path name : String} {v : Value} {f : Field} (h : r.Checks ctx path name v f) :
    P path name v f h := by
  induction v using Value.induction generalizing path name f with
  | null =>
    obtain rfl := checks_null.1 h
    exact null path name h
  | leaf s =>
    by_cases hp : r.isExcluded path = true
    · obtain rfl := (checks_excluded hp (by simp)).1 h
      exact excluded path name _ hp (by simp) h
    rw [Bool.not_eq_true] at hp
    by_cases hs : (Value.leaf s).isMark = true
    · obtain ⟨u, hu⟩ := Value.isMark_iff.1 hs
      cases hu
      obtain rfl := checks_mark.1 h
      exact mark path name u h
    · rw [Bool.not_eq_true] at hs
      exact leaf path name s f hs hp ((checks_leaf hs hp).1 h) h
  | seq v vs hv ih =>
    by_cases hp : r.isExcluded path = true
    · have hn : v ≠ .null := by
        rintro rfl
        cases hv
      obtain rfl := (checks_excluded hp hn).1 h
      exact excluded path name v hp hn h
    rw [Bool.not_eq_true] at hp
    obtain ⟨fs, hfs, rfl⟩ := (checks_seq hv hp).1 h
    refine seq path name v vs fs hv hp ?_ h
    exact ((List.forall₂_and_left _ _).2 ⟨ih, hfs⟩).imp fun _ _ h => ⟨h.2, h.1 h.2⟩
  | map es ih =>
    by_cases hp : r.isExcluded path = true
    · obtain rfl := (checks_excluded hp (by simp)).1 h
      exact excluded path name _ hp (by simp) h
    rw [Bool.not_eq_true] at hp
    obtain ⟨fs, hfs, rfl⟩ := (checks_map hp).1 h
    refine map path name es fs hp ?_ h
    refine ((List.forall₂_and_left _ _).2 ⟨ih, hfs⟩).imp fun e e' h => ?_
    obtain ⟨ihe, he⟩ := h
    cases he with
    | named hf => exact .named ⟨hf, ihe hf⟩
    | unnamed hk => exact .unnamed hk

theorem Checks.name_eq {path name : String} {v : Value} {f : Field}
    (h : r.Checks ctx path name v f) :
    f.name = name ∨ f.name = undefinedName := by
  induction h using Checks.induction with
  | null | mark | excluded => exact .inl rfl
  | leaf path name s f _ _ hf =>
    rw [checksLeaf_iff] at hf
    cases hf with
    | inl hf => exact .inr (hf.2 ▸ rfl)
    | inr hf =>
      obtain ⟨_, t, v, _, _, rfl⟩ := hf
      exact .inl rfl
  | seq | map => exact collapse_eq_or _ _

theorem Checks.unique {path name : String} {v : Value} {f g : Field}
    (hf : r.Checks ctx path name v f) (hg : r.Checks ctx path name v g) : f = g :=
  Except.ok.inj (hf.symm.trans hg)

theorem checksEntry_rightUnique {path : String} :
    Relator.RightUnique (r.ChecksEntry ctx path) := by
  intro e f g hf hg
  cases hf with
  | named hf =>
    cases hg with
    | named hg => rw [hf.unique hg]
    | unnamed hk => cases hk
  | unnamed hk =>
    cases hg with
    | named => cases hk
    | unnamed => rfl

end RuleSet

end Allowlist
