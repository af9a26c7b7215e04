import Allowlist.Proofs.RuleSet.Results
import Allowlist.RuleSet.Unnamed

namespace Allowlist

theorem isMark_of_holds {u : Verdict} {x : Value} {pos : Position} (h : u.value.Holds pos x) :
    x.isMark = true := by
  rw [(h.eq_of_atom rfl).2]
  exact u.value_isMark

namespace RuleSet

variable {r : RuleSet} {ctx : Context}

/-- The rules vouch for a leaf of a value that stands at a path: the chain of its own path accepts
it, or it stands in something that is not null and excluded. -/
inductive Vouched (r : RuleSet) (ctx : Context) : String → Value → Position → Value → Prop
  | accepted {path s t} : r.chainAt path ≠ [] → s.ruleText = .ok t →
      (Chain.evaluate t ctx (r.chainAt path)).result = .ok .accepted →
      Vouched r ctx path (.leaf s) [] (.leaf s)
  | excluded {path v pos x} : r.isExcluded path = true → v ≠ .null → v.Holds pos x →
      x.isAtom = true → Vouched r ctx path v pos x
  | item {path v vs i w pos x} : v.items? = some vs → vs[i]? = some w →
      Vouched r ctx path w pos x → Vouched r ctx path v (.index i :: pos) x
  | entry {path es k w pos x} : (.text k, w) ∈ es → Vouched r ctx (joinPath path k) w pos x →
      Vouched r ctx path (.map es) (.key (.text k) :: pos) x

def Passes (r : RuleSet) (ctx : Context) (path : String) (v x : Value) : Prop :=
  x.isMark = true ∨ ∃ pos, r.Vouched ctx path v pos x

theorem passes_mark {path : String} {v x : Value} {u : Verdict} {pos : Position}
    (h : u.value.Holds pos x) : r.Passes ctx path v x := .inl (isMark_of_holds h)

theorem Passes.item {path : String} {v w x : Value} {vs : List Value} (hv : v.items? = some vs)
    (hw : w ∈ vs) (h : r.Passes ctx path w x) : r.Passes ctx path v x := by
  cases h with
  | inl h => exact .inl h
  | inr h =>
    obtain ⟨pos, h⟩ := h
    obtain ⟨i, hi⟩ := List.mem_iff_getElem?.1 hw
    exact .inr ⟨_, .item hv hi h⟩

theorem Passes.entry {path k : String} {es : Entries} {w x : Value} (hw : (.text k, w) ∈ es)
    (h : r.Passes ctx (joinPath path k) w x) : r.Passes ctx path (.map es) x := by
  cases h with
  | inl h => exact .inl h
  | inr h =>
    obtain ⟨pos, h⟩ := h
    exact .inr ⟨_, .entry hw h⟩

theorem Checks.passes {path name : String} {v x : Value} {f : Field} {pos : Position}
    (h : r.Checks ctx path name v f) (hx : f.value.Holds pos x) (ha : x.isAtom = true) :
    r.Passes ctx path v x := by
  induction h using Checks.induction generalizing pos with
  | null path name => exact passes_mark hx
  | mark path name u => exact passes_mark hx
  | excluded path name v hp hv => exact .inr ⟨pos, .excluded hp hv hx ha⟩
  | leaf path name s f hs hp hf =>
    cases checksLeaf_iff.1 hf with
    | inl hc =>
      rw [hc.2] at hx
      exact passes_mark hx
    | inr hc =>
      obtain ⟨hc, t, u, ht, hu, rfl⟩ := hc
      by_cases hacc : u = .accepted
      · rw [if_pos hacc] at hx
        rw [(hx.eq_of_atom rfl).2]
        exact .inr ⟨[], .accepted hc ht (hacc ▸ hu)⟩
      · rw [if_neg hacc] at hx
        exact passes_mark hx
  | seq path name v vs fs hv hp hfs =>
    obtain ⟨i, w, pos, rfl, hw, hx⟩ := hx.item_inv rfl ha
    obtain ⟨f, hf, rfl⟩ := List.mem_map.1 (List.mem_of_getElem? hw)
    obtain ⟨w, hw, _, ih⟩ := hfs.exists_left hf
    exact (ih hx).item hv hw
  | map path name es fs hp hfs =>
    obtain ⟨k, w, pos, rfl, hw, hx⟩ := hx.entry_inv ha
    obtain ⟨k, hw, _⟩ := Entries.mem_ofList hw
    obtain ⟨e, he, hoe⟩ := hfs.exists_left hw
    cases hoe with
    | named hf =>
      obtain ⟨_, ih⟩ := hf
      exact (ih hx).entry he
    | unnamed => exact passes_mark hx

end RuleSet

namespace Unnamed

theorem checkAll?_eq_some {k : Key} {vs : List Value} {es : Entries} :
    checkAll? k vs = some es ↔ List.Forall₂ (fun v e => check? k v = some e) vs es := by
  induction vs generalizing es with
  | nil => simp [checkAll?, eq_comm]
  | cons v vs ih =>
    rw [List.forall₂_cons_left_iff]
    simp [checkAll?, Option.bind_eq_some_iff, ih, @eq_comm _ es]

theorem check?_seq {k : Key} {v : Value} {vs : List Value} (hv : v.items? = some vs) :
    check? k v =
      (checkAll? k vs).map fun es => (collapse k (es.map (·.1)), .list (es.map (·.2))) := by
  cases Value.items?_eq_some.1 hv with
  | inl hv => rw [hv, check?]
  | inr hv => rw [hv, check?]

theorem isMark_of_check? {k : Key} {v x : Value} {e : Key × Value} {pos : Position}
    (h : check? k v = some e) (hx : e.2.Holds pos x) (ha : x.isAtom = true) :
    x.isMark = true := by
  induction v using Value.induction generalizing e pos with
  | null =>
    cases h
    exact isMark_of_holds hx
  | leaf s =>
    rw [check?] at h
    split at h
    · rename_i hs
      cases h
      rwa [(hx.eq_of_atom rfl).2]
    · cases h
      exact isMark_of_holds hx
  | seq v vs hv ih =>
    rw [check?_seq hv, Option.map_eq_some_iff] at h
    obtain ⟨es, hes, rfl⟩ := h
    obtain ⟨i, w, pos, rfl, hw, hx⟩ := hx.item_inv rfl ha
    obtain ⟨e, he, rfl⟩ := List.mem_map.1 (List.mem_of_getElem? hw)
    obtain ⟨v, hv, hc⟩ := (checkAll?_eq_some.1 hes).exists_left he
    exact ih v hv hc hx
  | map es ih =>
    rw [check?] at h
    split at h
    · cases h
    · cases h
      obtain ⟨k, w, pos, rfl, hw, hx⟩ := hx.entry_inv ha
      obtain ⟨e, _, he⟩ := List.mem_map.1 hw
      cases he
      exact isMark_of_holds hx

end Unnamed

end Allowlist
