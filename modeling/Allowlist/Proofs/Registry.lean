import Allowlist.Proofs.Building
import Allowlist.Registry

namespace Allowlist.Registry

inductive Reachable : Registry → Prop
  | load {around d r} : (load around d).result = .ok r → Reachable r
  | update {r d r'} : Reachable r → (r.update d).result = .ok r' → Reachable r'

variable {around : Surroundings} {shared : RuleData} {d : Descriptors} {r r' : Registry}

theorem build_ok_iff {g : GroupDescriptor} {e : String × Group} :
    (build around shared g).result = .ok e ↔
      ∃ rules, (g.ruleSet shared around).result = .ok rules ∧
        e = (g.id, ⟨some rules, g.versions, g.builds⟩) := by
  simp only [build, Building.result_bind_ok, Building.pure_result, Except.ok.injEq, @eq_comm _ _ e]

theorem update_ok_iff : (r.update d).result = .ok r' ↔
    ∃ es, List.Forall₂ (fun g e => (build r.around d.shared g).result = .ok e) d.groups es ∧
      r' = ⟨r.around, Named.ofList es⟩ := by
  simp only [update, Building.result_bind_ok, Building.mapM_result_ok, Building.tell,
    Building.pure_result, Except.ok.injEq, exists_const, true_and, @eq_comm _ _ r']

theorem rules_of_update {id : String} {g : Group} (h : (r.update d).result = .ok r')
    (hg : r'.group? id = some g) : ∃ rules, g.rules = some rules := by
  obtain ⟨es, hes, rfl⟩ := update_ok_iff.1 h
  rw [group?, Named.lookup_ofList, List.lookup_eq_some_iff] at hg
  obtain ⟨ls, rs, hs, _⟩ := hg
  have hmem : (id, g) ∈ es := by
    rw [← List.mem_reverse, hs]
    simp
  obtain ⟨gd, -, hgd⟩ := hes.exists_left hmem
  obtain ⟨rules, -, heq⟩ := build_ok_iff.1 hgd
  cases heq
  exact ⟨rules, rfl⟩

theorem Reachable.rules (h : r.Reachable) {id : String} {g : Group} (hg : r.group? id = some g) :
    ∃ rules, g.rules = some rules := by
  cases h with
  | load h => exact rules_of_update h hg
  | update _ h => exact rules_of_update h hg

def sampleDescriptors : Descriptors where
  groups := [⟨"g", [], [], some ⟨some ["e"], some [("a.k", ["v"])], none, none⟩⟩]
  shared := .empty

def sampleSurroundings : Surroundings := ⟨[], ["a.x"], fun _ => none⟩

def sample : Registry where
  around := sampleSurroundings
  groups := [("g", ⟨some (.make [.enum ["e"]] [("a.k", [.enum ["v"]])] ["a.x"]), [], []⟩)]

theorem load_sample : (load sampleSurroundings sampleDescriptors).result = .ok sample := by
  simp [load, update, build, sampleDescriptors, sampleSurroundings, sample, Named.ofList,
    Named.insert, GroupDescriptor.ruleSet, RuleDescriptor.ruleSet, Specifier.chain?,
    Specifier.chain, Specifier.resolve, Specifier.parts, Specifier.partsFrom,
    Specifier.literalPart, Specifier.read?, Building.tell, Building.pure_eq]

theorem reachable_sample : sample.Reachable := .load load_sample

end Allowlist.Registry
