import Allowlist.Proofs.RuleSet.Results

namespace Allowlist.RuleSet

variable {r r' : RuleSet} {ctx ctx' : Context} {p p' : String}

/-- One rule set treats what stands at a path or below it as another does at another path. -/
structure Alike (r : RuleSet) (ctx : Context) (p : String) (r' : RuleSet) (ctx' : Context)
    (p' : String) : Prop where
  excluded : ∀ t, r.isExcluded (p ++ t) = r'.isExcluded (p' ++ t)
  leaf : ∀ t name s f, r.ChecksLeaf ctx (p ++ t) name s f → r'.ChecksLeaf ctx' (p' ++ t) name s f

theorem joinPath_append (p k t : String) : joinPath p k ++ t = p ++ ("." ++ k ++ t) := by
  simp only [joinPath, String.append_assoc]

theorem Alike.join (h : Alike r ctx p r' ctx' p') (k : String) :
    Alike r ctx (joinPath p k) r' ctx' (joinPath p' k) where
  excluded t := by
    rw [joinPath_append, joinPath_append]
    exact h.excluded _
  leaf t := by
    rw [joinPath_append, joinPath_append]
    exact h.leaf _

theorem Alike.isExcluded_eq (h : Alike r ctx p r' ctx' p') :
    r.isExcluded p = r'.isExcluded p' := by
  simpa using h.excluded ""

theorem Alike.checksLeaf (h : Alike r ctx p r' ctx' p') {name : String} {s : Scalar} {f : Field}
    (hf : r.ChecksLeaf ctx p name s f) : r'.ChecksLeaf ctx' p' name s f := by
  have := h.leaf "" name s f
  rw [String.append_empty, String.append_empty] at this
  exact this hf

theorem Checks.congr {name : String} {v : Value} {f : Field} (hf : r.Checks ctx p name v f)
    (h : Alike r ctx p r' ctx' p') : r'.Checks ctx' p' name v f := by
  induction hf using Checks.induction generalizing p' with
  | null p name => exact checks_null.2 rfl
  | mark p name u => exact checks_mark.2 rfl
  | excluded p name v hp hv => exact (checks_excluded (h.isExcluded_eq ▸ hp) hv).2 rfl
  | leaf p name s f hs hp hf =>
    exact (checks_leaf hs (h.isExcluded_eq ▸ hp)).2 (h.checksLeaf hf)
  | seq p name v vs fs hv hp hfs =>
    rw [checks_seq hv (h.isExcluded_eq ▸ hp)]
    exact ⟨fs, hfs.imp fun _ _ ⟨_, ih⟩ => ih h, rfl⟩
  | map p name es fs hp hfs =>
    rw [checks_map (h.isExcluded_eq ▸ hp)]
    exact ⟨fs, hfs.imp fun _ _ he => he.imp fun k _ _ ⟨_, ih⟩ => ih (h.join k), rfl⟩

def Bare (r : RuleSet) (path : String) : Prop :=
  ∀ t, r.isExcluded (path ++ t) = false ∧ r.chainAt (path ++ t) = []

theorem Bare.isExcluded_eq (h : r.Bare p) : r.isExcluded p = false := by
  simpa using (h "").1

theorem Bare.chainAt_eq (h : r.Bare p) : r.chainAt p = [] := by
  simpa using (h "").2

theorem Bare.join (h : r.Bare p) (k : String) : r.Bare (joinPath p k) := by
  intro t
  rw [joinPath_append]
  exact h _

theorem Bare.alike (h : r.Bare p) (h' : r.Bare p') : Alike r ctx p r ctx' p' where
  excluded t := by rw [(h t).1, (h' t).1]
  leaf t name s f hf := by
    rw [checksLeaf_iff, (h t).2] at hf
    rw [checksLeaf_iff, (h' t).2]
    simpa using hf

end Allowlist.RuleSet
