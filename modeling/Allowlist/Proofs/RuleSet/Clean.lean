import Allowlist.Proofs.Escape.Values
import Allowlist.Proofs.RuleSet.Results

namespace Allowlist

def Entries.CleanKeys (es : Entries) : Prop := ∀ e ∈ es, e.1.escape = e.1

namespace Value

abbrev Clean : Value → Prop := All (fun s => s.escape = s) Entries.CleanKeys

theorem clean_mark (u : Verdict) : u.value.Clean := by
  apply All.leaf
  simp [Scalar.escape]

theorem clean_ofList {es : Entries} (h : (map es).Clean) : (map (Entries.ofList es)).Clean := by
  apply All.map
  · intro e he
    obtain ⟨e', he', hk⟩ := List.mem_map.1 (Entries.key_mem_of_mem_ofList he)
    rw [← hk]
    exact h.entries e' he'
  · intro e he
    obtain ⟨k, hk, _⟩ := Entries.mem_ofList he
    exact h.entry (e := (k, e.2)) hk

theorem escape_ne_null {v : Value} (h : v ≠ .null) : v.escape ≠ .null := by
  cases v with
  | null => exact absurd rfl h
  | _ => simp [escape]

theorem escape_map_of_clean {es : Entries} (h : (map es).Clean) (hd : Entries.ofList es = es) :
    (map es).escape = .map (es.map fun e => (e.1, e.2.escape)) := by
  have values : es.map escapeEntry = es.map fun e => (e.1, e.2.escape) := by
    apply List.map_congr_left
    intro e he
    rw [escapeEntry, h.entries e he]
  rw [escape_map, values, Entries.ofList_map_value, hd]

end Value

namespace RuleSet

variable {r : RuleSet} {ctx : Context} {path name : String}

theorem Checks.escape_name {v : Value} {f : Field} (h : r.Checks ctx path name v f)
    (hn : Escape.name name = name) : Escape.name f.name = f.name := by
  cases h.name_eq with
  | inl hf => rw [hf, hn]
  | inr hf => rw [hf, Escape.name_undefinedName]

theorem Checks.clean {v : Value} {f : Field} (h : r.Checks ctx path name v f) (hv : v.Clean) :
    f.value.Clean := by
  induction h using Checks.induction with
  | null => exact Value.clean_mark _
  | mark => exact hv
  | excluded => exact hv
  | leaf path name s f hs hp hf =>
    cases checksLeaf_iff.1 hf with
    | inl hc =>
      rw [hc.2]
      exact Value.clean_mark _
    | inr hc =>
      obtain ⟨_, _, u, _, _, rfl⟩ := hc
      by_cases hu : u = .accepted
      · rw [if_pos hu]
        exact hv
      · rw [if_neg hu]
        exact Value.clean_mark u
  | seq path name v vs fs hi hp hfs =>
    apply Value.All.seq rfl
    intro w hw
    obtain ⟨f, hf, rfl⟩ := List.mem_map.1 hw
    obtain ⟨v, hv', _, ih⟩ := hfs.exists_left hf
    exact ih (hv.item hi hv')
  | map path name es fs hp hfs =>
    apply Value.clean_ofList
    apply Value.All.map
    · intro f hf
      obtain ⟨e, he, hoe⟩ := hfs.exists_left hf
      cases hoe with
      | @unnamed k v => exact hv.entries (k, v) he
      | named hg =>
        have hk := hv.entries _ he
        simp only [Key.escape, Key.leaf.injEq, Scalar.text.injEq] at hk ⊢
        exact hg.1.escape_name hk
    · intro f hf
      obtain ⟨e, he, hoe⟩ := hfs.exists_left hf
      cases hoe with
      | unnamed => exact Value.clean_mark _
      | named hg => exact hg.2 (hv.entry he)

theorem Checks.escape {v : Value} {f : Field} (h : r.Checks ctx path name v f) (hf : f.value = v)
    (hv : v.Clean) : r.Checks ctx path name v.escape ⟨f.name, v.escape⟩ := by
  induction h using Checks.induction with
  | null => cases hf
  | mark path name u =>
    rw [Value.escape_mark]
    exact checks_mark.2 rfl
  | excluded path name v hp hne => exact (checks_excluded hp (Value.escape_ne_null hne)).2 rfl
  | leaf path name s f hs hp _ h =>
    have hs : (Value.leaf s).escape = .leaf s := by rw [Value.escape, hv.scalar]
    obtain ⟨m, _⟩ := f
    cases hf
    rw [hs]
    exact h
  | seq path name v vs fs hi hp hfs =>
    cases hf
    cases hi
    rw [List.forall₂_map_left_iff, List.forall₂_same] at hfs
    rw [Value.escape_seq rfl]
    refine (checks_seq rfl hp).2 ⟨fs.map fun f => ⟨f.name, f.value.escape⟩, ?_, ?_⟩
    · rw [List.map_map, List.forall₂_map_left_iff, List.forall₂_map_right_iff, List.forall₂_same]
      intro f hf
      obtain ⟨_, ih⟩ := hfs f hf
      exact ih rfl (hv.item rfl (List.mem_map_of_mem hf))
    · rw [List.map_map, List.map_map, List.map_map]
      rfl
  | map path name es fs hp hfs =>
    have hes : Entries.ofList fs = es := by
      cases hf
      rfl
    -- As many entries as before, so none of them was merged.
    have hfs' : fs = es := by
      rw [← hes]
      apply (Entries.ofList_of_length _).symm
      rw [hes, hfs.length_eq]
    subst hfs'
    rw [List.forall₂_same] at hfs
    rw [Value.escape_map_of_clean hv hes]
    refine (checks_map hp).2 ⟨fs.map fun e => (e.1, e.2.escape), ?_, ?_⟩
    · rw [List.forall₂_map_left_iff, List.forall₂_map_right_iff, List.forall₂_same]
      intro e he
      cases (hfs e he).of_eq rfl with
      | inl h =>
        obtain ⟨k, w, rfl, _, ih⟩ := h
        refine .named (f := ⟨k, w.escape⟩) ?_
        exact ih rfl (hv.entry he)
      | inr h =>
        obtain ⟨k, hk, rfl⟩ := h
        rw [Value.escape_mark]
        exact .unnamed hk
    · rw [List.map_map, Entries.ofList_map_value, hes]
      rfl

end RuleSet

end Allowlist
