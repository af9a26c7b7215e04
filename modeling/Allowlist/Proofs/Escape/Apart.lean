import Allowlist.Proofs.Escape.Values

namespace Allowlist

/-- All keys are names, none is that of fields that no rule governs, and no two of them are escaped
to the same name. -/
structure Entries.Apart (es : Entries) : Prop where
  name : ∀ e ∈ es, ∃ s, e.1 = .text s ∧ s ≠ undefinedName
  distinct : es.Pairwise fun a b => a.1.escape ≠ b.1.escape

theorem Entries.Apart.eq_of_escape {es : Entries} (h : Apart es) {a b : Key × Value}
    (ha : a ∈ es) (hb : b ∈ es) (he : a.1.escape = b.1.escape) : a = b := by
  have once : ∀ a ∈ es, ∀ b ∈ es, a.1.escape = b.1.escape → a = b := by
    apply List.Pairwise.forall_of_forall_of_flip
    · intro a _ _
      rfl
    · exact h.distinct.imp fun hne he => absurd he hne
    · exact h.distinct.imp fun hne he => absurd he.symm hne
  exact once a ha b hb he

theorem Entries.Apart.named {es : Entries} (h : Apart es) : Named es := by
  intro e he
  obtain ⟨s, hs, _⟩ := h.name e he
  rw [hs]
  rfl

namespace Value

abbrev Apart : Value → Prop := All (fun _ => True) Entries.Apart

theorem at?_list {vs : List Value} {i : Nat} {w : Value} (pos : Position) (hw : vs[i]? = some w) :
    (list vs).at? (.index i :: pos) = w.at? pos := by
  simp [at?, items?, hw]

theorem at?_map {es : Entries} {k : Key} {w : Value} (pos : Position)
    (hw : Entries.get? k es = some w) : (map es).at? (.key k :: pos) = w.at? pos := by
  simp [at?, entries?, hw]

theorem at?_escape_seq {v w : Value} {vs : List Value} {i : Nat} (pos : Position)
    (hv : v.items? = some vs) (hw : vs[i]? = some w) :
    v.escape.at? (.index i :: pos) = w.escape.at? pos := by
  rw [escape_seq hv]
  apply at?_list
  rw [List.getElem?_map, hw]
  rfl

theorem at?_escape {v x : Value} {pos : Position} (h : v.Apart) (hx : v.Holds pos x) :
    v.escape.at? (pos.map Step.escape) = some x.escape := by
  induction hx with
  | here => rfl
  | item hv hw _ ih =>
    rw [List.map_cons, Step.escape, at?_escape_seq _ hv hw]
    exact ih (h.item hv (List.mem_of_getElem? hw))
  | @entry es k w pos x hw _ ih =>
    obtain ⟨s, hs, _⟩ := h.entries.name _ hw
    cases hs
    rw [escape_map, List.map_cons, Step.escape]
    rw [at?_map (w := w.escape)]
    · exact ih (h.entry hw)
    · apply Entries.get?_ofList
      · exact List.mem_map.2 ⟨_, hw, rfl⟩
      · intro e' he' hk
        obtain ⟨e, he, rfl⟩ := List.mem_map.1 he'
        cases h.entries.eq_of_escape he hw hk
        rfl

end Value

end Allowlist
