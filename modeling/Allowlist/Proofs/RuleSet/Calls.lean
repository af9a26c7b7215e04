import Allowlist.Proofs.Chain
import Allowlist.Proofs.RuleSet.Results
import Mathlib.Data.List.Infix

namespace Allowlist

structure Leaf where
  keys : List Key
  scalar : Scalar

def Leaf.below (k : Key) (l : Leaf) : Leaf := ⟨k :: l.keys, l.scalar⟩

namespace Value

mutual
def leaves : Value → List Leaf
  | .null => []
  | .leaf s => [⟨[], s⟩]
  | .list vs => leavesAll vs
  | .tuple vs => leavesAll vs
  | .map es => leavesUnder es

def leavesAll : List Value → List Leaf
  | [] => []
  | v :: vs => v.leaves ++ leavesAll vs

def leavesUnder : Entries → List Leaf
  | [] => []
  | (k, v) :: es => v.leaves.map (Leaf.below k) ++ leavesUnder es
end

theorem leavesAll_eq_flatMap (vs : List Value) : leavesAll vs = vs.flatMap leaves := by
  induction vs with
  | nil => rfl
  | cons v vs ih => rw [leavesAll, ih, List.flatMap_cons]

theorem leavesUnder_eq_flatMap (es : Entries) :
    leavesUnder es = es.flatMap fun e => e.2.leaves.map (Leaf.below e.1) := by
  induction es with
  | nil => rfl
  | cons e es ih => rw [leavesUnder, ih, List.flatMap_cons]

theorem leaves_seq {v : Value} {vs : List Value} (hv : v.items? = some vs) :
    v.leaves = vs.flatMap leaves := by
  cases items?_eq_some.1 hv with
  | inl hv => rw [hv, leaves, leavesAll_eq_flatMap]
  | inr hv => rw [hv, leaves, leavesAll_eq_flatMap]

theorem leaves_map (es : Entries) :
    (map es).leaves = es.flatMap fun e => e.2.leaves.map (Leaf.below e.1) := by
  rw [leaves, leavesUnder_eq_flatMap]

end Value

def Key.text? : Key → Option String
  | .text s => some s
  | _ => none

theorem Key.text?_of_not_isText {k : Key} (h : k.isText = false) : k.text? = none := by
  cases k with
  | leaf a =>
    cases a with
    | text s => cases h
    | _ => rfl
  | _ => rfl

def pathUnder (path : String) (ks : List Key) : String :=
  (ks.filterMap Key.text?).foldl joinPath path

theorem pathUnder_cons (path k : String) (ks : List Key) :
    pathUnder path (.text k :: ks) = pathUnder (joinPath path k) ks := rfl

namespace RuleSet

/-- Whether rules govern a leaf: it is no mark, it stands under texts only, nothing is excluded that
it is or stands in, and its path has a chain of rules. -/
def governs (r : RuleSet) (path : String) (l : Leaf) : Bool :=
  !(Value.leaf l.scalar).isMark && l.keys.all Key.isText &&
    l.keys.inits.all (fun ks => !r.isExcluded (pathUnder path ks)) &&
    !(r.chainAt (pathUnder path l.keys)).isEmpty

def attempts (r : RuleSet) (ctx : Context) (path : String) (l : Leaf) : List Run.Attempt :=
  match l.scalar.ruleText with
  | .ok t => (Chain.calls t ctx (r.chainAt (pathUnder path l.keys))).map .call
  | .error e => [.lapse e]

/-- What is attempted for a value, as long as nothing fails. -/
def plan (r : RuleSet) (ctx : Context) (path : String) (v : Value) : List Run.Attempt :=
  (v.leaves.filter (r.governs path)).flatMap (r.attempts ctx path)

variable {r : RuleSet} {ctx : Context} {path name : String}

theorem governs_of_excluded (hp : r.isExcluded path = true) (l : Leaf) :
    r.governs path l = false := by
  obtain ⟨ks, s⟩ := l
  cases ks <;> simp [governs, pathUnder, hp]

theorem governs_below_unnamed {k : Key} (hk : k.isText = false) (l : Leaf) :
    r.governs path (l.below k) = false := by
  simp [governs, Leaf.below, hk]

theorem governs_below (hp : r.isExcluded path = false) (k : String) (l : Leaf) :
    r.governs path (l.below (.text k)) = r.governs (joinPath path k) l := by
  have here : r.isExcluded (pathUnder path []) = false := hp
  simp only [governs, Leaf.below, List.all_cons, List.inits_cons, List.all_map, here,
    pathUnder_cons, Key.isText, Bool.true_and, Bool.not_false, Function.comp_def]

theorem plan_of_excluded (hp : r.isExcluded path = true) (v : Value) :
    r.plan ctx path v = [] := by
  rw [plan, List.filter_eq_nil_iff.2, List.flatMap_nil]
  intro l _
  simp [governs_of_excluded hp l]

theorem plan_mark (u : Verdict) : r.plan ctx path u.value = [] := by
  simp [plan, governs, Verdict.value, Value.leaves, Value.isMark, isMark_mark]

theorem plan_leaf {s : Scalar} (hs : (Value.leaf s).isMark = false)
    (hp : r.isExcluded path = false) :
    r.plan ctx path (.leaf s) =
      if r.chainAt path = [] then [] else r.attempts ctx path ⟨[], s⟩ := by
  have here : pathUnder path [] = path := rfl
  by_cases hc : r.chainAt path = []
  · simp [plan, governs, Value.leaves, here, hc]
  · simp [plan, governs, Value.leaves, here, hs, hp, hc]

theorem plan_seq {v : Value} {vs : List Value} (hv : v.items? = some vs) :
    r.plan ctx path v = vs.flatMap (r.plan ctx path) := by
  rw [plan, Value.leaves_seq hv, List.filter_flatMap, List.flatMap_assoc]
  rfl

def entryPlan (r : RuleSet) (ctx : Context) (path : String) (e : Key × Value) :
    List Run.Attempt :=
  match e.1.text? with
  | some k => r.plan ctx (joinPath path k) e.2
  | none => []

theorem plan_below (hp : r.isExcluded path = false) (e : Key × Value) :
    ((e.2.leaves.map (Leaf.below e.1)).filter (r.governs path)).flatMap (r.attempts ctx path) =
      r.entryPlan ctx path e := by
  obtain ⟨k, v⟩ := e
  rw [List.filter_map, List.flatMap_map]
  by_cases hk : k.isText = true
  · obtain ⟨k, rfl⟩ := Key.isText_iff.1 hk
    have below : r.governs path ∘ Leaf.below (.text k) = r.governs (joinPath path k) :=
      funext (governs_below hp k)
    rw [below]
    rfl
  · rw [Bool.not_eq_true] at hk
    have none : ∀ l ∈ v.leaves, ¬ (r.governs path ∘ Leaf.below k) l = true := by
      intro l _
      simp [governs_below_unnamed hk]
    rw [List.filter_eq_nil_iff.2 none, entryPlan, Key.text?_of_not_isText hk]
    rfl

theorem plan_map (hp : r.isExcluded path = false) (es : Entries) :
    r.plan ctx path (.map es) = es.flatMap (r.entryPlan ctx path) := by
  rw [plan, Value.leaves_map, List.filter_flatMap, List.flatMap_assoc]
  exact List.flatMap_congr fun e _ => plan_below hp e

theorem checkLeaf_follows {s : Scalar} (hs : (Value.leaf s).isMark = false)
    (hp : r.isExcluded path = false) :
    (r.checkLeaf ctx path name s).Follows (r.plan ctx path (.leaf s)) := by
  rw [plan_leaf hs hp]
  by_cases hc : r.chainAt path = []
  · simpa [checkLeaf, hc] using Run.Follows.pure
  rw [if_neg hc, checkLeaf_governed hc, attempts]
  cases ht : s.ruleText with
  | error e => exact .lapse
  | ok t =>
    rw [Run.lift_ok, Run.pure_bind]
    exact (Chain.evaluateFrom_follows _ _ _ _).bind_pure

theorem checkLeaf_of_error {s : Scalar} {e : Failure} (hc : r.chainAt path ≠ [])
    (h : s.ruleText = .error e) : r.checkLeaf ctx path name s = ⟨[], .error e⟩ := by
  rw [checkLeaf_governed hc, h]
  rfl

theorem checkAll_follows {vs : List Value}
    (h : ∀ v ∈ vs, (r.check ctx path name v).Follows (r.plan ctx path v)) :
    (r.checkAll ctx path name vs).Follows (vs.flatMap (r.plan ctx path)) := by
  induction vs with
  | nil => exact .pure
  | cons v vs ih =>
    rw [List.forall_mem_cons] at h
    exact h.1.bind fun f _ => (ih h.2).bind_pure

theorem checkEntries_follows {es : Entries}
    (h : ∀ e ∈ es, ∀ k, e.1 = .text k →
      (r.check ctx (joinPath path k) k e.2).Follows (r.plan ctx (joinPath path k) e.2)) :
    (r.checkEntries ctx path es).Follows (es.flatMap (r.entryPlan ctx path)) := by
  induction es with
  | nil => exact .pure
  | cons e es ih =>
    obtain ⟨k, v⟩ := e
    rw [List.forall_mem_cons] at h
    by_cases hk : k.isText = true
    · obtain ⟨k, rfl⟩ := Key.isText_iff.1 hk
      exact (h.1 k rfl).bind fun f _ => (ih h.2).bind_pure
    · rw [Bool.not_eq_true] at hk
      rw [checkEntries_unnamed hk, List.flatMap_cons, entryPlan, Key.text?_of_not_isText hk]
      exact (ih h.2).bind_pure

theorem check_follows_of_excluded {v : Value} (hp : r.isExcluded path = true) (hv : v ≠ .null) :
    (r.check ctx path name v).Follows (r.plan ctx path v) := by
  rw [check_excluded hp hv, plan_of_excluded hp]
  exact .pure

theorem check_follows (r : RuleSet) (ctx : Context) (path name : String) (v : Value) :
    (r.check ctx path name v).Follows (r.plan ctx path v) := by
  induction v using Value.induction generalizing path name with
  | null => exact .pure
  | leaf s =>
    by_cases hp : r.isExcluded path = true
    · exact check_follows_of_excluded hp (by simp)
    rw [Bool.not_eq_true] at hp
    by_cases hs : (Value.leaf s).isMark = true
    · obtain ⟨u, hu⟩ := Value.isMark_iff.1 hs
      rw [hu, check_mark, plan_mark]
      exact .pure
    · rw [Bool.not_eq_true] at hs
      rw [check_leaf hs hp]
      exact checkLeaf_follows hs hp
  | seq v vs hv ih =>
    by_cases hp : r.isExcluded path = true
    · exact check_follows_of_excluded hp (by rintro rfl; cases hv)
    rw [Bool.not_eq_true] at hp
    rw [check_seq hv hp, plan_seq hv]
    exact (checkAll_follows fun w hw => ih w hw path name).bind_pure
  | map es ih =>
    by_cases hp : r.isExcluded path = true
    · exact check_follows_of_excluded hp (by simp)
    rw [Bool.not_eq_true] at hp
    rw [check_map hp, plan_map hp]
    exact (checkEntries_follows fun e he k _ => ih e he (joinPath path k) k).bind_pure

/-- The rules that are called for a field are those of the leaves that rules govern, leaf by leaf in
their order, and of each chain those up to the first final verdict, with the text of the leaf and
the event as it is. Nothing is called after a call that fails, nor after a leaf without a text; the
result is that failure then. -/
theorem checkField_calls (r : RuleSet) (ctx : Context) (name : String) (v : Value) :
    (r.checkField ctx name v).calls = (upTo Run.Attempt.fails
      ((v.leaves.filter (r.governs name)).flatMap (r.attempts ctx name))).filterMap
        Run.Attempt.call? ∧
    ∀ e, (r.checkField ctx name v).result = .error e ↔ ∃ t ∈ upTo Run.Attempt.fails
      ((v.leaves.filter (r.governs name)).flatMap (r.attempts ctx name)), t.failure? = some e := by
  have follows := check_follows r ctx name name v
  exact ⟨follows.calls_eq, fun e => follows.result_eq_error_iff⟩

def pickyRules : RuleSet := .make [] [("a", [.enum ["v"]])] []

def longList : Value := .list [.leaf (.int longNumber), .text "v"]

theorem check_longList (ctx : Context) (name : String) :
    pickyRules.check ctx "a" name longList = ⟨[], .error ⟨Text.digitLimit ""⟩⟩ := by
  have hp : pickyRules.isExcluded "a" = false := by decide
  have number : pickyRules.check ctx "a" name (.leaf (.int longNumber)) =
      ⟨[], .error ⟨Text.digitLimit ""⟩⟩ := by
    rw [check_leaf rfl hp]
    exact checkLeaf_of_error (by simp [pickyRules, make, chainAt]) ruleText_longNumber
  rw [longList, check_seq rfl hp, checkAll, number]
  rfl

theorem longList_stops_calls : (⟨[], .text "v"⟩ : Leaf) ∈ longList.leaves ∧
    pickyRules.governs "a" ⟨[], .text "v"⟩ = true ∧
    (pickyRules.checkField ⟨"e", none⟩ "a" longList).calls = [] ∧
    (pickyRules.checkField ⟨"e", none⟩ "a" longList).result = .error ⟨Text.digitLimit ""⟩ := by
  have run := check_longList ⟨"e", none⟩ "a"
  exact ⟨.tail _ (.head _), by decide, congrArg Run.calls run, congrArg Run.result run⟩

end RuleSet

end Allowlist
