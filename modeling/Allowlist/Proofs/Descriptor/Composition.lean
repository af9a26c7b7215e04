import Allowlist.Proofs.Descriptor.Loaded
import Allowlist.Proofs.Descriptor.Widening
import Mathlib.Logic.Relation

namespace Allowlist

def Location.atIndex (i : Nat) : Location → Location
  | root :: _ :: steps => root :: toString i :: steps
  | steps => steps

namespace Descriptors

def locations (v : Value) : List Location := (Load.descriptors v).errors

def Refused (v : Value) : Prop := ∃ m, load v = .error m

def ofGroups (gs : List Value) : Value := .map [(.text "groups", .list gs)]

def ofRules (r : Value) : Value := .map [(.text "rules", r)]

def document (gs : List Value) (r : Value) : Value :=
  .map [(.text "groups", .list gs), (.text "rules", r)]

theorem load_eq_ok_iff {v : Value} {d : Descriptors} :
    load v = .ok d ↔ Load.descriptors v = .ok d := by
  unfold load
  cases Load.descriptors v with
  | ok a => simp
  | invalid ls => simp

theorem eq_of_load_eq_error {v : Value} {m : String} (h : load v = .error m) :
    m = invalidDescriptors (locations v) := by
  unfold load at h
  unfold locations
  cases hv : Load.descriptors v with
  | ok a =>
    rw [hv] at h
    cases h
  | invalid ls =>
    rw [hv] at h
    cases h
    rfl

theorem refused_iff {v : Value} : Refused v ↔ (Load.descriptors v).IsInvalid := by
  unfold Refused load
  cases Load.descriptors v with
  | ok a => exact iff_of_false nofun nofun
  | invalid ls => exact iff_of_true ⟨_, rfl⟩ ⟨ls, rfl⟩

section

variable {gs : List Value} {g r : Value}

theorem descriptors_document : Load.descriptors (document gs r) =
    Descriptors.mk <$> (Load.itemsFrom Load.groupDescriptor 0 gs).under "groups" <*>
      (Load.ruleData r).under "rules" := rfl

theorem descriptors_ofGroups : Load.descriptors (ofGroups gs) =
    Descriptors.mk <$> (Load.itemsFrom Load.groupDescriptor 0 gs).under "groups" <*>
      Loaded.ok .empty := rfl

theorem descriptors_ofRules : Load.descriptors (ofRules r) =
    Descriptors.mk <$> Loaded.ok [] <*> (Load.ruleData r).under "rules" := rfl

theorem refused_ofGroup : Refused (ofGroups [g]) ↔ (Load.groupDescriptor g).IsInvalid := by
  rw [refused_iff, descriptors_ofGroups, Loaded.isInvalid_seq, Loaded.isInvalid_map,
    Loaded.isInvalid_under, Load.isInvalid_itemsFrom]
  simp [Loaded.not_isInvalid_ok]

theorem refused_ofRules : Refused (ofRules r) ↔ (Load.ruleData r).IsInvalid := by
  rw [refused_iff, descriptors_ofRules, Loaded.isInvalid_seq, Loaded.isInvalid_map,
    Loaded.isInvalid_under]
  simp [Loaded.not_isInvalid_ok]

theorem refused_document :
    Refused (document gs r) ↔ (∃ g ∈ gs, Refused (ofGroups [g])) ∨ Refused (ofRules r) := by
  simp only [refused_ofGroup, refused_ofRules]
  rw [refused_iff, descriptors_document, Loaded.isInvalid_seq, Loaded.isInvalid_map,
    Loaded.isInvalid_under, Loaded.isInvalid_under, Load.isInvalid_itemsFrom]

theorem locations_ofGroup : locations (ofGroups [g]) =
    (Load.groupDescriptor g).errors.map fun l => "groups" :: "0" :: l := by
  rw [locations, descriptors_ofGroups, Loaded.errors_seq, Loaded.errors_map, Loaded.errors_under,
    Load.errors_itemsFrom, List.zipIdx_singleton, List.flatMap_singleton, List.map_map]
  exact List.append_nil _

theorem locations_ofRules :
    locations (ofRules r) = (Load.ruleData r).errors.map ("rules" :: ·) := by
  rw [locations, descriptors_ofRules, Loaded.errors_seq, Loaded.errors_map, Loaded.errors_under]
  rfl

theorem locations_document : locations (document gs r) =
    (gs.zipIdx.flatMap fun (g, i) => (locations (ofGroups [g])).map (Location.atIndex i)) ++
      locations (ofRules r) := by
  have moved (g : Value) (i : Nat) : (locations (ofGroups [g])).map (Location.atIndex i) =
      ((Load.groupDescriptor g).errors.map (toString i :: ·)).map ("groups" :: ·) := by
    rw [locations_ofGroup, List.map_map, List.map_map]
    rfl
  simp only [moved]
  rw [locations_ofRules, locations, descriptors_document, Loaded.errors_seq, Loaded.errors_map,
    Loaded.errors_under, Loaded.errors_under, Load.errors_itemsFrom, List.map_flatMap]

theorem load_ofGroup_iff {x : GroupDescriptor} :
    load (ofGroups [g]) = .ok ⟨[x], .empty⟩ ↔ Load.groupDescriptor g = .ok x := by
  rw [load_eq_ok_iff, descriptors_ofGroups, Loaded.seq_eq_ok_iff]
  simp only [Loaded.map_eq_ok_iff, Loaded.under_eq_ok_iff, Load.itemsFrom_eq_ok_iff,
    List.forall₂_cons_left_iff, List.forall₂_nil_left_iff]
  constructor
  · rintro ⟨_, _, ⟨_, ⟨y, _, hy, rfl, rfl⟩, rfl⟩, -, he⟩
    cases he
    exact hy
  · intro hx
    exact ⟨_, _, ⟨_, ⟨x, _, hx, rfl, rfl⟩, rfl⟩, rfl, rfl⟩

theorem load_ofRules_iff {d : RuleData} :
    load (ofRules r) = .ok ⟨[], d⟩ ↔ Load.ruleData r = .ok d := by
  rw [load_eq_ok_iff, descriptors_ofRules, Loaded.seq_eq_ok_iff]
  simp only [Loaded.map_eq_ok_iff, Loaded.under_eq_ok_iff]
  constructor
  · rintro ⟨_, _, ⟨_, hgs, rfl⟩, hd, he⟩
    cases hgs
    cases he
    exact hd
  · intro hd
    exact ⟨_, d, ⟨[], rfl, rfl⟩, hd, rfl⟩

theorem load_document_iff {d : Descriptors} : load (document gs r) = .ok d ↔
    List.Forall₂ (fun g x => load (ofGroups [g]) = .ok ⟨[x], .empty⟩) gs d.groups ∧
      load (ofRules r) = .ok ⟨[], d.shared⟩ := by
  simp only [load_ofGroup_iff, load_ofRules_iff]
  rw [load_eq_ok_iff, descriptors_document, Loaded.seq_eq_ok_iff]
  simp only [Loaded.map_eq_ok_iff, Loaded.under_eq_ok_iff, Load.itemsFrom_eq_ok_iff]
  constructor
  · rintro ⟨_, _, ⟨xs, hxs, rfl⟩, hd, rfl⟩
    exact ⟨hxs, hd⟩
  · rintro ⟨hxs, hd⟩
    exact ⟨_, _, ⟨_, hxs, rfl⟩, hd, rfl⟩

theorem load_eq_of_widens {v w : Value} (h : Load.Widens .document v w) : load w = load v := by
  have read : Load.descriptors v = Load.descriptors w := h.read_eq
  rw [load, load, read]

/-- A list of groups loads as its groups do one by one, beside the rules: what is said of them and
what they give is put together in order, and each place is that of the group alone with the index in
the list. Entries under names that are not asked for are never seen. -/
theorem loading_composes (gs : List Value) (r : Value) :
    (Refused (document gs r) ↔ (∃ g ∈ gs, Refused (ofGroups [g])) ∨ Refused (ofRules r)) ∧
    (∀ v m, load v = .error m → m = invalidDescriptors (locations v)) ∧
    locations (document gs r) =
      (gs.zipIdx.flatMap fun (g, i) => (locations (ofGroups [g])).map (Location.atIndex i)) ++
        locations (ofRules r) ∧
    (∀ g, ∀ l ∈ locations (ofGroups [g]), ∃ steps, l = "groups" :: "0" :: steps) ∧
    (∀ d, load (document gs r) = .ok d ↔
      List.Forall₂ (fun g x => load (ofGroups [g]) = .ok ⟨[x], .empty⟩) gs d.groups ∧
        load (ofRules r) = .ok ⟨[], d.shared⟩) ∧
    ∀ v w, Relation.ReflTransGen (Load.Widens .document) v w → load w = load v := by
  refine ⟨refused_document, fun _ _ h => eq_of_load_eq_error h, locations_document, ?_,
    fun _ => load_document_iff, ?_⟩
  · intro g l hl
    rw [locations_ofGroup] at hl
    obtain ⟨steps, -, rfl⟩ := List.mem_map.1 hl
    exact ⟨steps, rfl⟩
  · intro v w h
    induction h with
    | refl => rfl
    | tail _ hw ih => rw [load_eq_of_widens hw, ih]

end

def namedGroup : Value := .map [(.text "id", .text "g")]

def namelessGroup : Value := .map [(.text "id", .text "")]

def looseRange (extra : Entries) : Value := .map ((.text "to", .leaf (.int 3)) :: extra)

def looseGroup (extra inside : Entries) : Value :=
  .map (extra ++ [(.text "id", .text "h"), (.text "builds", .list [looseRange inside])])

def mixedGroups (extra : Entries) : List Value :=
  [namedGroup, namelessGroup, looseGroup extra extra]

def looseRules : Value := .map [(.text "enums", .null)]

theorem widens_mixedGroups (v : Value) : Relation.ReflTransGen (Load.Widens .document)
    (document (mixedGroups []) looseRules)
    (document (mixedGroups [(.text "title", v)]) looseRules) := by
  have inRange : Load.Widens .range (looseRange []) (looseRange [(.text "title", v)]) :=
    @Load.Widens.entry .range [_] [] _ v (by decide)
  have inBuilds : Load.Widens .group (looseGroup [] []) (looseGroup [] [(.text "title", v)]) :=
    @Load.Widens.field .group _ [_] [] _ _ _ .builds (@Load.Widens.list .range [] [] _ _ inRange)
  have inGroup (inside : Entries) :
      Load.Widens .group (looseGroup [] inside) (looseGroup [(.text "title", v)] inside) :=
    @Load.Widens.entry .group [] _ _ v (by decide)
  have inDocument {g h : Value} (hw : Load.Widens .group g h) : Load.Widens .document
      (document [namedGroup, namelessGroup, g] looseRules)
      (document [namedGroup, namelessGroup, h] looseRules) :=
    @Load.Widens.field .document _ [] [_] _ _ _ .groups
      (@Load.Widens.list .group [_, _] [] _ _ hw)
  exact .tail (.single (inDocument inBuilds)) (inDocument (inGroup _))

theorem mixedGroups_compose :
    Refused (ofGroups [namelessGroup]) ∧
    Refused (document (mixedGroups []) looseRules) ∧
    locations (document (mixedGroups []) looseRules) =
      [["groups", "1", "id"], ["groups", "2", "builds", "0", "to"], ["rules", "enums"]] ∧
    load (document [namedGroup, namedGroup] (.map [])) =
      .ok ⟨List.replicate 2 ⟨"g", [], [], none⟩, .empty⟩ ∧
    load (document (mixedGroups [(.text "title", .text "Loose")]) looseRules) =
      load (document (mixedGroups []) looseRules) := by
  obtain ⟨refused, -, places, -, -, widened⟩ := loading_composes (mixedGroups []) looseRules
  obtain ⟨-, -, -, -, loaded, -⟩ := loading_composes [namedGroup, namedGroup] (.map [])
  have nameless : Refused (ofGroups [namelessGroup]) := ⟨_, rfl⟩
  have single : load (ofGroups [namedGroup]) = .ok ⟨[⟨"g", [], [], none⟩], .empty⟩ := rfl
  refine ⟨nameless, refused.2 (.inl ⟨namelessGroup, ?_, nameless⟩), places, ?_,
    widened _ _ (widens_mixedGroups _)⟩
  · exact .tail _ (.head _)
  · exact (loaded _).2 ⟨.cons single (.cons single .nil), rfl⟩

end Descriptors

end Allowlist
