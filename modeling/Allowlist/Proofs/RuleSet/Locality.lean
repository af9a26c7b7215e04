import Allowlist.Proofs.RuleSet.Concealment
import Allowlist.Proofs.RuleSet.Rebuilt
import Allowlist.Proofs.RuleSet.Retention

namespace Allowlist

theorem Entries.Distinct.get?_of_mem {es : Entries} (h : Distinct es) {k : String} {v : Value}
    (hv : (.text k, v) ∈ es) : get? (.text k) es = some v := by
  induction h with
  | nil => cases hv
  | cons hne _ ih =>
    cases hv with
    | head => simp [get?]
    | tail _ hv => simp [get?, hne _ hv, ih hv]

theorem Entries.Distinct.eq_of_text {es : Entries} (h : Distinct es) {e : Key × Value} {k : String}
    {v : Value} (he : e ∈ es) (hk : e.1 = .text k) (hv : (.text k, v) ∈ es) : e = (.text k, v) := by
  obtain ⟨_, w⟩ := e
  cases hk
  rw [Option.some.inj ((h.get?_of_mem he).symm.trans (h.get?_of_mem hv))]

namespace RuleSet

/-- The values that a check of a value comes to, with their positions, paths and names. -/
inductive Visits (r : RuleSet) :
    String → String → Value → Position → String → String → Value → Prop
  | here {path name v} : Visits r path name v [] path name v
  | item {path name v vs i w pos p n x} : r.isExcluded path = false → v.items? = some vs →
      vs[i]? = some w → Visits r path name w pos p n x →
      Visits r path name v (.index i :: pos) p n x
  | entry {path name es k w pos p n x} : r.isExcluded path = false → (.text k, w) ∈ es →
      Visits r (joinPath path k) k w pos p n x →
      Visits r path name (.map es) (.key (.text k) :: pos) p n x

inductive EqualOutside (r : RuleSet) : String → Value → Value → Prop
  | refl {path v} : EqualOutside r path v v
  | excluded {path v w} : r.isExcluded path = true → v ≠ .null → w ≠ .null →
      EqualOutside r path v w
  | seq {path v w vs ws} : r.isExcluded path = false → v.items? = some vs → w.items? = some ws →
      vs.length = ws.length → (∀ {x y}, (x, y) ∈ vs.zip ws → EqualOutside r path x y) →
      EqualOutside r path v w
  | map {path es fs} : r.isExcluded path = false → es.map (·.1) = fs.map (·.1) →
      (∀ {k x y}, ((.text k, x), (.text k, y)) ∈ es.zip fs →
        EqualOutside r (joinPath path k) x y) →
      EqualOutside r path (.map es) (.map fs)

/-- On the paths that a check comes to, two rule sets exclude the same, and have the same chains
where nothing is excluded. -/
def AgreeOn (r r' : RuleSet) (path name : String) (v : Value) : Prop :=
  ∀ pos p n x, r.Visits path name v pos p n x →
    r.isExcluded p = r'.isExcluded p ∧ (r.isExcluded p = false → r.chainAt p = r'.chainAt p)

def SameName (f g : Field) : Prop := f.name = g.name

inductive BothEntries (R : Field → Field → Prop) : Key × Value → Key × Value → Prop
  | named {f g} : R f g → BothEntries R (.text f.name, f.value) (.text g.name, g.value)
  | unnamed {k} : k.isText = false →
      BothEntries R (k, Verdict.rejected.value) (k, Verdict.rejected.value)

theorem BothEntries.key_eq {e f : Key × Value} (h : BothEntries SameName e f) : e.1 = f.1 := by
  cases h with
  | named h => exact congrArg Key.text h
  | unnamed => rfl

theorem BothEntries.eq {e f : Key × Value} (h : BothEntries Eq e f) : e = f := by
  cases h with
  | named h => rw [h]
  | unnamed => rfl

variable {r r' : RuleSet} {ctx : Context} {path name : String} {v w : Value}

theorem checkAll_inStep {R : Field → Field → Prop} {vs ws : List Value}
    (h : List.Forall₂ (fun v w =>
      Run.InStep R (r.check ctx path name v) (r'.check ctx path name w)) vs ws) :
    Run.InStep (List.Forall₂ R) (r.checkAll ctx path name vs) (r'.checkAll ctx path name ws) := by
  induction h with
  | nil => exact .pure .nil
  | cons hv _ ih =>
    rw [checkAll, checkAll]
    exact hv.bind fun f g hfg => ih.bind fun fs gs hfgs => .pure (.cons hfg hfgs)

theorem checkEntries_inStep {R : Field → Field → Prop} {es es' : Entries}
    (h : List.Forall₂ (fun e e' => e.1 = e'.1 ∧ ∀ k, e.1 = .text k →
      Run.InStep R (r.check ctx (joinPath path k) k e.2) (r'.check ctx (joinPath path k) k e'.2))
      es es') :
    Run.InStep (List.Forall₂ (BothEntries R)) (r.checkEntries ctx path es)
      (r'.checkEntries ctx path es') := by
  induction h with
  | nil => exact .pure .nil
  | @cons e e' es es' he _ ih =>
    obtain ⟨k, v⟩ := e
    obtain ⟨k', v'⟩ := e'
    obtain ⟨rfl, hv⟩ := he
    by_cases hk : k.isText = true
    · obtain ⟨k, rfl⟩ := Key.isText_iff.1 hk
      rw [checkEntries, checkEntries]
      exact (hv k rfl).bind fun f g hfg => ih.bind fun fs gs hfgs => .pure (.cons (.named hfg) hfgs)
    · rw [Bool.not_eq_true] at hk
      rw [checkEntries_unnamed hk, checkEntries_unnamed hk]
      exact ih.bind fun fs gs hfgs => .pure (.cons (.unnamed hk) hfgs)

theorem Visits.found {pos : Position} {p n : String} {x : Value} {f : Field}
    (h : r.Visits path name v pos p n x) (hp : r.isExcluded p = true) (hx : x ≠ .null)
    (hv : v.Keyed) (hk : ∀ k, Step.key (.text k) ∈ pos → k ≠ undefinedName)
    (hf : r.Checks ctx path name v f) : f.name = name ∧ f.value.at? pos = some x := by
  induction h generalizing f with
  | here =>
    obtain rfl := (checks_excluded hp hx).1 hf
    exact ⟨rfl, rfl⟩
  | @item path name v vs i w pos p n x hpath hi hw _ ih =>
    obtain ⟨fs, hfs, rfl⟩ := (checks_seq hi hpath).1 hf
    obtain ⟨g, hg, hwg⟩ := hfs.exists_getElem? hw
    obtain ⟨hname, hat⟩ := ih hp hx (hv.item hi (List.mem_of_getElem? hw))
      (fun k hk' => hk k (.tail _ hk')) hwg
    constructor
    · by_cases hn : name = undefinedName
      · rw [hn, collapse_undefinedName]
      · have hmem := List.mem_map_of_mem (f := fun f => Key.text f.name) (List.mem_of_getElem? hg)
        exact collapse_of_mem (hname ▸ hmem) hn
    · rw [← hat]
      apply Value.at?_list
      rw [List.getElem?_map, hg]
      rfl
  | @entry path name es k w pos p n x hpath hw _ ih =>
    obtain ⟨fs, hfs, rfl⟩ := (checks_map hpath).1 hf
    obtain ⟨e, he, hoe⟩ := hfs.exists_right hw
    obtain ⟨_, g, hs, hg, rfl⟩ := hoe.of_isText rfl
    cases hs
    have hne : k ≠ undefinedName := hk k (.head _)
    obtain ⟨hname, hat⟩ := ih hp hx (hv.entry hw) (fun k hk' => hk k (.tail _ hk')) hg
    -- No other entry can have come under this key.
    have only : ∀ e ∈ fs, e.1 = .text k → e.2 = g.value := by
      intro e' he' hk'
      obtain ⟨d, hd, hde⟩ := hfs.exists_left he'
      have hdk : e'.1 = d.1 := hde.key_eq_or.resolve_right (by simpa [hk'] using hne)
      obtain rfl := hv.entries.eq_of_text hd (hdk.symm.trans hk') hw
      rw [checksEntry_rightUnique hde hoe]
    rw [hname] at he
    exact ⟨collapse_of_mem (List.mem_map_of_mem (f := (·.1)) he) hne,
      (Value.at?_map _ (Entries.get?_ofList he only)).trans hat⟩

theorem EqualOutside.inStep (h : r.EqualOutside path v w) (name : String) :
    Run.InStep SameName (r.check ctx path name v) (r.check ctx path name w) := by
  induction h generalizing name with
  | refl => exact .refl (R := SameName) (fun _ => Eq.refl _) _
  | excluded hp hv hw =>
    rw [check_excluded hp hv, check_excluded hp hw]
    exact .pure (Eq.refl name)
  | seq hp hv hw hlen _ ih =>
    rw [check_seq hv hp, check_seq hw hp]
    refine (checkAll_inStep (List.forall₂_iff_zip.2 ⟨hlen, fun h => ih h name⟩)).bind ?_
    intro fs gs hfgs
    have names : fs.map (fun f => Key.text f.name) = gs.map fun g => .text g.name :=
      hfgs.map_eq fun _ _ hfg => congrArg Key.text hfg
    rw [names]
    exact .pure (Eq.refl _)
  | @map path es fs hp hk _ ih =>
    rw [check_map hp, check_map hp]
    have entries := List.Forall₂.of_keys (P := fun e e' => e.1 = e'.1 ∧ ∀ k, e.1 = .text k →
      Run.InStep SameName (r.check ctx (joinPath path k) k e.2)
        (r.check ctx (joinPath path k) k e'.2)) hk ?_
    · refine (checkEntries_inStep entries).bind ?_
      intro gs hs hgs
      have keys : gs.map (·.1) = hs.map (·.1) := hgs.map_eq fun _ _ => BothEntries.key_eq
      rw [keys]
      exact .pure (Eq.refl _)
    · intro k x y he
      refine ⟨rfl, ?_⟩
      rintro k rfl
      exact ih he k

theorem AgreeOn.here (h : AgreeOn r r' path name v) :
    r.isExcluded path = r'.isExcluded path ∧
      (r.isExcluded path = false → r.chainAt path = r'.chainAt path) :=
  h _ _ _ _ .here

theorem AgreeOn.item (h : AgreeOn r r' path name v) {vs : List Value}
    (hp : r.isExcluded path = false) (hv : v.items? = some vs) (hw : w ∈ vs) :
    AgreeOn r r' path name w := by
  obtain ⟨i, hi⟩ := List.mem_iff_getElem?.1 hw
  exact fun _ _ _ _ hx => h _ _ _ _ (.item hp hv hi hx)

theorem AgreeOn.entry {es : Entries} (h : AgreeOn r r' path name (.map es))
    (hp : r.isExcluded path = false) {k : String} (hw : (.text k, w) ∈ es) :
    AgreeOn r r' (joinPath path k) k w :=
  fun _ _ _ _ hx => h _ _ _ _ (.entry hp hw hx)

theorem AgreeOn.inStep_of_excluded (h : AgreeOn r r' path name v)
    (hp : r.isExcluded path = true) :
    Run.InStep Eq (r.check ctx path name v) (r'.check ctx path name v) := by
  by_cases hv : v = .null
  · subst hv
    exact .refl Eq.refl _
  · rw [check_excluded hp hv, check_excluded (h.here.1 ▸ hp) hv]
    exact .pure rfl

theorem AgreeOn.inStep (h : AgreeOn r r' path name v) :
    Run.InStep Eq (r.check ctx path name v) (r'.check ctx path name v) := by
  induction v using Value.induction generalizing path name with
  | null => exact .refl Eq.refl _
  | leaf s =>
    by_cases hp : r.isExcluded path = true
    · exact h.inStep_of_excluded hp
    rw [Bool.not_eq_true] at hp
    by_cases hs : (Value.leaf s).isMark = true
    · obtain ⟨u, hu⟩ := Value.isMark_iff.1 hs
      rw [hu, check_mark, check_mark]
      exact .pure rfl
    · rw [Bool.not_eq_true] at hs
      rw [check_leaf hs hp, check_leaf hs (h.here.1 ▸ hp), checkLeaf, checkLeaf, h.here.2 hp]
      exact .refl Eq.refl _
  | seq v vs hv ih =>
    by_cases hp : r.isExcluded path = true
    · exact h.inStep_of_excluded hp
    rw [Bool.not_eq_true] at hp
    have items : List.Forall₂ (fun v w =>
        Run.InStep Eq (r.check ctx path name v) (r'.check ctx path name w)) vs vs :=
      List.forall₂_same.2 fun w hw => ih w hw (h.item hp hv hw)
    rw [check_seq hv hp, check_seq hv (h.here.1 ▸ hp)]
    refine (checkAll_inStep items).bind fun fs gs hfgs => ?_
    rw [List.forall₂_eq_eq_eq] at hfgs
    rw [hfgs]
    exact .pure rfl
  | map es ih =>
    by_cases hp : r.isExcluded path = true
    · exact h.inStep_of_excluded hp
    rw [Bool.not_eq_true] at hp
    have entries : List.Forall₂ (fun e e' => e.1 = e'.1 ∧ ∀ k, e.1 = .text k →
        Run.InStep Eq (r.check ctx (joinPath path k) k e.2)
          (r'.check ctx (joinPath path k) k e'.2)) es es := by
      refine List.forall₂_same.2 fun e he => ⟨rfl, fun k hk => ih e he (h.entry hp ?_)⟩
      rw [← hk]
      exact he
    rw [check_map hp, check_map (h.here.1 ▸ hp)]
    refine (checkEntries_inStep entries).bind fun fs gs hfgs => ?_
    have hfgs : List.Forall₂ Eq fs gs := hfgs.imp fun _ _ => BothEntries.eq
    rw [List.forall₂_eq_eq_eq] at hfgs
    rw [hfgs]
    exact .pure rfl

/-- What is excluded is returned as it is under its own name, and no rule is called because of it.
It stands in the field where it was, unless fields that no rule governs take a name on the way. What
a rule set says about paths that a check does not come to makes no difference to the run. -/
theorem check_is_local :
    (∀ {r : RuleSet} {ctx : Context} {path name : String} {v : Value} {pos : Position}
      {p n : String} {x : Value}, r.Visits path name v pos p n x → r.isExcluded p = true →
      x ≠ .null → r.check ctx p n x = pure ⟨n, x⟩ ∧
        ∀ f, r.Checks ctx path name v f → v.Keyed →
          (∀ k, Step.key (.text k) ∈ pos → k ≠ undefinedName) →
          f.name = name ∧ f.value.at? pos = some x) ∧
    (∀ {r : RuleSet} {ctx : Context} {path name : String} {v w : Value},
      r.EqualOutside path v w →
      Run.InStep SameName (r.check ctx path name v) (r.check ctx path name w)) ∧
    ∀ {r r' : RuleSet} {ctx : Context} {path name : String} {v : Value},
      r.AgreeOn r' path name v → r.check ctx path name v = r'.check ctx path name v := by
  refine ⟨?_, ?_, ?_⟩
  · intro r ctx path name v pos p n x h hp hx
    exact ⟨check_excluded hp hx, fun f hf hv hk => h.found hp hx hv hk hf⟩
  · intro r ctx path name v w h
    exact h.inStep name
  · intro r r' ctx path name v h
    exact h.inStep.eq

def strictRules : RuleSet :=
  .make [.rejectAll] [("a.k", [.enum ["v"]]), ("a.x", [.rejectAll]), ("b", [.rejectAll])]
    ["a.x", "c"]

def partlyExcluded (x : Value) : Value := .list [.map [(.text "k", .text "v"), (.text "x", x)]]

def excludedTuple : Value := .tuple [.null, .map [(.leaf (.int 3), .text "w")]]

theorem visits_excludedTuple : looseRules.Visits "a" "a" (partlyExcluded excludedTuple)
    [.index 0, .key (.text "x")] "a.x" "x" excludedTuple :=
  .item (by decide) rfl rfl (.entry (by decide) (.tail _ (.head _)) .here)

theorem keyed_partlyExcluded : (partlyExcluded excludedTuple).Keyed := by
  have inner : (Value.map [(.leaf (.int 3), .text "w")]).Keyed :=
    .map (by decide) (by simp [Value.All.leaf])
  have tuple : excludedTuple.Keyed := .seq rfl (by simp [Value.All.null, inner])
  have entries : (Value.map [(.text "k", .text "v"), (.text "x", excludedTuple)]).Keyed :=
    .map (by decide) (by simp [Value.All.leaf, tuple])
  exact .seq rfl (by simpa using entries)

theorem equalOutside_partlyExcluded {x y : Value} (hx : x ≠ .null) (hy : y ≠ .null) :
    looseRules.EqualOutside "a" (partlyExcluded x) (partlyExcluded y) := by
  refine .seq (by decide) rfl rfl rfl ?_
  intro v w h
  simp only [List.zip_cons_cons, List.zip_nil_left, List.mem_singleton, Prod.mk.injEq] at h
  obtain ⟨rfl, rfl⟩ := h
  refine .map (by decide) rfl ?_
  intro k v w h
  simp only [List.zip_cons_cons, List.zip_nil_left, List.mem_cons, Prod.mk.injEq, Key.leaf.injEq,
    Scalar.text.injEq, List.not_mem_nil, or_false] at h
  rcases h with ⟨⟨rfl, rfl⟩, -, rfl⟩ | ⟨⟨rfl, rfl⟩, -, rfl⟩
  · exact .refl
  · exact .excluded (by decide) hx hy

theorem agreeOn_partlyExcluded (x : Value) :
    looseRules.AgreeOn strictRules "a" "a" (partlyExcluded x) := by
  intro pos p n y h
  cases h with
  | here => exact ⟨by decide, fun _ => rfl⟩
  | @item _ _ _ _ i w _ _ _ _ _ hi hw h =>
    cases hi
    have hw := List.mem_of_getElem? hw
    rw [List.mem_singleton] at hw
    subst hw
    cases h with
    | here => exact ⟨by decide, fun _ => rfl⟩
    | item _ hi => cases hi
    | entry _ hw h =>
      simp only [List.mem_cons, Prod.mk.injEq, Key.leaf.injEq, Scalar.text.injEq,
        List.not_mem_nil, or_false] at hw
      rcases hw with ⟨rfl, rfl⟩ | ⟨rfl, rfl⟩
      · cases h with
        | here => exact ⟨by decide, fun _ => rfl⟩
        | item _ hi => cases hi
      · cases h with
        | here => exact ⟨by decide, fun hp => absurd hp (by decide)⟩
        | item hp => exact absurd hp (by decide)
        | entry hp => exact absurd hp (by decide)

theorem partlyExcluded_checked :
    looseRules.isExcluded "a.x" = true ∧ excludedTuple ≠ .null ∧
    looseRules.check ⟨"e", none⟩ "a.x" "x" excludedTuple = pure ⟨"x", excludedTuple⟩ ∧
    (∃ f, looseRules.Checks ⟨"e", none⟩ "a" "a" (partlyExcluded excludedTuple) f ∧
      f.name = "a" ∧ f.value.at? [.index 0, .key (.text "x")] = some excludedTuple) ∧
    Run.InStep SameName
      (looseRules.check ⟨"e", none⟩ "a" "a" (partlyExcluded excludedTuple))
      (looseRules.check ⟨"e", none⟩ "a" "a" (partlyExcluded (.text "w"))) ∧
    looseRules.check ⟨"e", none⟩ "a" "a" (partlyExcluded excludedTuple) =
      strictRules.check ⟨"e", none⟩ "a" "a" (partlyExcluded excludedTuple) := by
  have hp : looseRules.isExcluded "a.x" = true := by decide
  have hx : excludedTuple ≠ .null := by simp [excludedTuple]
  obtain ⟨excluded, inStep, agreeing⟩ := @check_is_local
  obtain ⟨here, found⟩ := @excluded _ ⟨"e", none⟩ _ _ _ _ _ _ _ visits_excludedTuple hp hx
  have names : ∀ k, Step.key (.text k) ∈ [.index 0, .key (.text "x")] → k ≠ undefinedName := by
    simp [undefinedName, Verdict.mark]
  have short : (partlyExcluded excludedTuple).Short := by
    simp [Value.Short, partlyExcluded, excludedTuple, Value.leaves, Value.leavesAll,
      Value.leavesUnder, Leaf.below]
  obtain ⟨f, hf⟩ := @NeverFails.exists_checks _ ⟨"e", none⟩ _ _ looseRules_neverFails
    (writes_of_short short) "a"
  exact ⟨hp, hx, here, ⟨f, hf, found f hf keyed_partlyExcluded names⟩,
    inStep (equalOutside_partlyExcluded hx (by simp)), agreeing (agreeOn_partlyExcluded _)⟩

end RuleSet

end Allowlist
