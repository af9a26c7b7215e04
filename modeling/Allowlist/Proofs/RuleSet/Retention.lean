import Allowlist.Proofs.Escape.Apart
import Allowlist.Proofs.RuleSet.Vouched

namespace Allowlist.RuleSet

variable {r : RuleSet} {ctx : Context} {path : String} {v x : Value} {pos : Position}

theorem Vouched.holds (h : r.Vouched ctx path v pos x) : v.Holds pos x := by
  induction h with
  | accepted => exact .here
  | excluded _ _ h => exact h
  | item hv hw _ ih => exact .item hv hw ih
  | entry hw _ ih => exact .entry hw ih

theorem Vouched.isAtom (h : r.Vouched ctx path v pos x) : x.isAtom = true := by
  induction h with
  | accepted => rfl
  | excluded _ _ _ h => exact h
  | item _ _ _ ih => exact ih
  | entry _ _ ih => exact ih

/-- What must not be lost: a leaf that the rules vouch for, or a mark. -/
def Owed (r : RuleSet) (ctx : Context) (path : String) (v : Value) (pos : Position) (x : Value) :
    Prop :=
  r.Vouched ctx path v pos x ∨ v.Holds pos x ∧ x.isMark = true

theorem Owed.holds (h : r.Owed ctx path v pos x) : v.Holds pos x := by
  cases h with
  | inl h => exact h.holds
  | inr h => exact h.1

theorem Owed.item (h : r.Owed ctx path v pos x) {vs : List Value} (hv : v.items? = some vs)
    (hp : r.isExcluded path = false) :
    ∃ i w pos', pos = .index i :: pos' ∧ vs[i]? = some w ∧ r.Owed ctx path w pos' x := by
  cases h with
  | inl h =>
    cases h with
    | accepted | entry => cases hv
    | excluded hp' =>
      rw [hp] at hp'
      cases hp'
    | item hv' hw h =>
      cases hv.symm.trans hv'
      exact ⟨_, _, _, rfl, hw, .inl h⟩
  | inr h =>
    obtain ⟨u, rfl⟩ := Value.isMark_iff.1 h.2
    obtain ⟨i, w, pos', rfl, hw, hx⟩ := h.1.item_inv hv rfl
    exact ⟨i, w, pos', rfl, hw, .inr ⟨hx, h.2⟩⟩

theorem Owed.entry {es : Entries} (h : r.Owed ctx path (.map es) pos x)
    (hp : r.isExcluded path = false) (ha : Entries.Apart es) :
    ∃ k w pos', pos = .key (.text k) :: pos' ∧ (.text k, w) ∈ es ∧ k ≠ undefinedName ∧
      r.Owed ctx (joinPath path k) w pos' x := by
  have named : ∀ k w, (k, w) ∈ es → ∃ s, k = .text s ∧ s ≠ undefinedName := fun k w hw =>
    ha.name _ hw
  cases h with
  | inl h =>
    cases h with
    | excluded hp' =>
      rw [hp] at hp'
      cases hp'
    | item hv => cases hv
    | entry hw h =>
      obtain ⟨s, hs, hne⟩ := named _ _ hw
      cases hs
      exact ⟨_, _, _, rfl, hw, hne, .inl h⟩
  | inr h =>
    obtain ⟨u, rfl⟩ := Value.isMark_iff.1 h.2
    obtain ⟨k, w, pos', rfl, hw, hx⟩ := h.1.entry_inv rfl
    obtain ⟨s, rfl, hne⟩ := named _ _ hw
    exact ⟨s, w, pos', rfl, hw, hne, .inr ⟨hx, h.2⟩⟩

theorem get?_of_kept {p : String → String} {es fs : Entries} {k : String} {w : Value}
    {f : Field} (ha : Entries.Apart es)
    (h : List.Forall₂ (OnEntry fun k => r.Checks ctx (p k) k) es fs)
    (hw : (.text k, w) ∈ es) (hf : r.Checks ctx (p k) k w f) (hn : f.name = k) :
    Entries.get? (.text (Escape.name k))
      (Entries.ofList ((Entries.ofList fs).map Value.escapeEntry)) = some f.value.escape := by
  -- Names are kept apart, and no other name is escaped to the collapsed one.
  have only : ∀ e ∈ fs, e.1.isText = true ∧
      (e.1.escape = .text (Escape.name k) → e = (.text k, f.value)) := by
    intro e he
    obtain ⟨⟨j, y⟩, he₀, hoe⟩ := h.exists_left he
    obtain ⟨j, g, hj, hg, rfl⟩ := hoe.of_isText (ha.named _ he₀)
    cases hj
    refine ⟨rfl, fun hk => ?_⟩
    obtain ⟨_, hs, hne⟩ := ha.name _ hw
    cases hs
    cases hg.name_eq with
    | inl hj =>
      rw [hj] at hk
      cases ha.eq_of_escape he₀ hw hk
      rw [hf.unique hg, hj]
    | inr hu =>
      rw [hu, Key.escape, Escape.name_undefinedName, Key.leaf.injEq, Scalar.text.injEq] at hk
      exact absurd hk.symm (Escape.name_ne_undefinedName hne)
  have there : (.text k, f.value) ∈ fs := by
    obtain ⟨e, he, hoe⟩ := h.exists_right hw
    obtain ⟨_, g, hk, hg, rfl⟩ := hoe.of_isText rfl
    cases hk
    cases hf.unique hg
    rwa [hn] at he
  have kept : (.text k, f.value) ∈ Entries.ofList fs := by
    apply Entries.mem_of_get?
    apply Entries.get?_ofList there
    intro e he hk
    rw [(only e he).2 (by rw [hk]; rfl)]
  apply Entries.get?_ofList
  · exact List.mem_map.2 ⟨_, kept, rfl⟩
  · intro e he hk
    obtain ⟨e', he', rfl⟩ := List.mem_map.1 he
    rw [(only e' (Entries.mem_of_mem_ofList (fun e he => (only e he).1) he')).2 hk]
    rfl

theorem collapse_of_mem {name k : String} {ks : List Key} (hk : .text k ∈ ks)
    (hn : k ≠ undefinedName) : collapse name ks = name := by
  unfold collapse
  split
  · rename_i h
    have := (allUndefined_iff.1 h).2 _ hk
    rw [Key.leaf.injEq, Scalar.text.injEq] at this
    exact absurd this hn
  · rfl

theorem Checks.retains {name : String} {f : Field} (h : r.Checks ctx path name v f)
    (hn : name ≠ undefinedName) (ha : v.Apart) (hx : r.Owed ctx path v pos x) :
    f.name = name ∧ f.value.escape.at? (pos.map Step.escape) = some x.escape := by
  induction h using Checks.induction generalizing pos with
  | null path name =>
    cases hx with
    | inl hx =>
      cases hx with
      | excluded _ hv => exact absurd rfl hv
      | item hv => cases hv
    | inr hx =>
      rw [(hx.1.eq_of_atom rfl).2] at hx
      cases hx.2
  | mark path name u => exact ⟨rfl, Value.at?_escape ha hx.holds⟩
  | excluded path name v hp hv => exact ⟨rfl, Value.at?_escape ha hx.holds⟩
  | leaf path name s f hs hp hf =>
    cases hx with
    | inl hx =>
      cases hx with
      | excluded hp' =>
        rw [hp] at hp'
        cases hp'
      | item hv => cases hv
      | accepted hc ht hacc =>
        have hf := (checksLeaf_iff.1 hf).resolve_left fun h => hc h.1
        obtain ⟨_, t, u, ht', hu, rfl⟩ := hf
        cases ht.symm.trans ht'
        cases hacc.symm.trans hu
        exact ⟨rfl, rfl⟩
    | inr hx =>
      rw [(hx.1.eq_of_atom rfl).2, hs] at hx
      cases hx.2
  | seq path name v vs fs hv hp hfs =>
    obtain ⟨i, w, pos, rfl, hw, hx⟩ := hx.item hv hp
    obtain ⟨f, hf, _, ih⟩ := hfs.exists_getElem? hw
    obtain ⟨hname, hat⟩ := ih hn (ha.item hv (List.mem_of_getElem? hw)) hx
    constructor
    · have hmem : .text f.name ∈ fs.map fun f => Key.text f.name :=
        List.mem_map_of_mem (List.mem_of_getElem? hf)
      rw [hname] at hmem
      exact collapse_of_mem hmem hn
    · rw [List.map_cons, Step.escape, ← hat]
      apply Value.at?_escape_seq _ rfl
      rw [List.getElem?_map, hf]
      rfl
  | map path name es fs hp hfs =>
    obtain ⟨k, w, pos, rfl, hw, hk, hx⟩ := hx.entry hp ha.entries
    obtain ⟨e, he, hoe⟩ := hfs.exists_right hw
    have hfs : List.Forall₂ (r.ChecksEntry ctx path) es fs :=
      hfs.imp fun _ _ he => he.imp fun _ _ _ h => h.1
    obtain ⟨_, f, hs, ⟨hf, ih⟩, rfl⟩ := hoe.of_isText rfl
    cases hs
    obtain ⟨hname, hat⟩ := ih hk (ha.entry hw) hx
    constructor
    · have hmem := List.mem_map_of_mem (f := (·.1)) he
      exact collapse_of_mem (hname ▸ hmem) hk
    · rw [Value.escape_map, List.map_cons, ← hat]
      exact Value.at?_map _ (get?_of_kept ha.entries hfs hw hf hname)

end Allowlist.RuleSet
