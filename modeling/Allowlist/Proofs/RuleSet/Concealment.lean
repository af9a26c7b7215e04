import Allowlist.Proofs.RuleSet.Static

/-!
What a check conceals. Where no rule is custom, two values that differ only in leaves that the rules
refuse alike, and under keys that are no texts, are checked to the same field.
-/

namespace Allowlist.RuleSet

variable {r : RuleSet} {ctx ctx' : Context} {path : String}

/-- No rule governs two leaves at a path, or the chain there gives one verdict on the texts of both
and accepts neither. -/
def RefusesAlike (r : RuleSet) (ctx : Context) (path : String) (s t : Scalar) : Prop :=
  r.chainAt path = [] ∨ ∃ a b u, u ≠ .accepted ∧ s.ruleText = .ok a ∧ t.ruleText = .ok b ∧
    (Chain.evaluate a ctx (r.chainAt path)).result = .ok u ∧
    (Chain.evaluate b ctx (r.chainAt path)).result = .ok u

/-- Values of one shape under the same keys that differ only in what the rules do not let through:
leaves that are no marks, stand in nothing excluded and are refused alike, and whatever stands under
keys that are no texts. -/
inductive Conceals (r : RuleSet) (ctx : Context) : String → Value → Value → Prop
  | refl {path v} : Conceals r ctx path v v
  | leaf {path s t} : r.isExcluded path = false → (Value.leaf s).isMark = false →
      (Value.leaf t).isMark = false → r.RefusesAlike ctx path s t →
      Conceals r ctx path (.leaf s) (.leaf t)
  | seq {path v w vs ws} : r.isExcluded path = false → v.items? = some vs → w.items? = some ws →
      vs.length = ws.length → (∀ {x y}, (x, y) ∈ vs.zip ws → Conceals r ctx path x y) →
      Conceals r ctx path v w
  | map {path es fs} : r.isExcluded path = false → es.map (·.1) = fs.map (·.1) →
      (∀ {k x y}, ((.text k, x), (.text k, y)) ∈ es.zip fs →
        Conceals r ctx (joinPath path k) x y) →
      Conceals r ctx path (.map es) (.map fs)

theorem RefusesAlike.checksLeaf_iff {s t : Scalar} (hr : r.Static)
    (h : r.RefusesAlike ctx path s t) (name : String) (f : Field) :
    r.ChecksLeaf ctx path name s f ↔ r.ChecksLeaf ctx' path name t f := by
  rw [RuleSet.checksLeaf_iff, RuleSet.checksLeaf_iff]
  by_cases hc : r.chainAt path = []
  · simp [hc]
  · obtain ⟨a, b, u, hu, ha, hb, hs, ht⟩ := h.resolve_left hc
    rw [Chain.evaluate_static (hr.chainAt path) b ctx ctx'] at ht
    simp [hc, ha, hb, hs, ht, hu]

theorem Conceals.checks_iff (hr : r.Static) {v w : Value} (h : r.Conceals ctx path v w)
    (name : String) (f : Field) : r.Checks ctx path name v f ↔ r.Checks ctx' path name w f := by
  induction h generalizing name f with
  | refl => exact ⟨fun hf => hf.congr hr.alike, fun hf => hf.congr hr.alike⟩
  | leaf hp hs ht h => rw [checks_leaf hs hp, checks_leaf ht hp, h.checksLeaf_iff hr]
  | seq hp hv hw hlen _ ih =>
    have fields := List.forall₂_iff_zip.2 ⟨hlen, fun h => ih h name⟩
    simp only [checks_seq hv hp, checks_seq hw hp, fields.congr_left]
  | @map path es fs hp hk _ ih =>
    have entries : List.Forall₂ (fun e f => ∀ g, r.ChecksEntry ctx path e g ↔
        r.ChecksEntry ctx' path f g) es fs := by
      refine List.Forall₂.of_keys hk fun {k x y} he g => ?_
      by_cases ht : k.isText = true
      · obtain ⟨k, rfl⟩ := Key.isText_iff.1 ht
        rw [ChecksEntry, ChecksEntry, onEntry_text_iff, onEntry_text_iff]
        simp only [ih he]
      · rw [Bool.not_eq_true] at ht
        rw [ChecksEntry, ChecksEntry, onEntry_unnamed_iff ht, onEntry_unnamed_iff ht]
    simp only [checks_map hp, entries.congr_left]

end Allowlist.RuleSet
