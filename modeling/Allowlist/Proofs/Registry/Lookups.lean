import Allowlist.Proofs.Named
import Allowlist.Proofs.Registry
import Allowlist.Proofs.Specifier.Decision

namespace Allowlist

def Descriptors.ofGroup (d : Descriptors) (id : String) : List GroupDescriptor :=
  d.groups.filter (·.id = id)

def Descriptors.ids (d : Descriptors) : List String := d.groups.map (·.id)

def GroupDescriptor.group? (g : GroupDescriptor) (shared : RuleData) (around : Surroundings) :
    Option Group :=
  (g.ruleSet shared around).result.toOption.map fun rules => ⟨some rules, g.versions, g.builds⟩

def Descriptors.isBuilt (d : Descriptors) (around : Surroundings) : Bool :=
  d.groups.all fun g => (g.group? d.shared around).isSome

def RuleDescriptor.specifiers (r : RuleDescriptor) : List String :=
  (r.eventData.getD []).flatMap (·.2) ++ r.eventId.getD []

namespace Registry

inductive Request
  | update (d : Descriptors)
  | lookup (id : String)

inductive Reply
  | updated (notices : List Notice)
  | failed (m : Pattern.Mishap) (notices : List Notice)
  | found (g : Option Group)

def respond (r : Registry) : Request → Registry × Reply
  | .update d =>
    match r.update d with
    | ⟨notices, .ok r'⟩ => (r', .updated notices)
    | ⟨notices, .error m⟩ => (r, .failed m notices)
  | .lookup id => (r, .found (r.group? id))

def after (r : Registry) (qs : List Request) : Registry :=
  qs.foldl (fun r q => (r.respond q).1) r

def Request.document (around : Surroundings) (d : Descriptors) : Request → Descriptors
  | .update d' => if d'.isBuilt around then d' else d
  | .lookup _ => d

/-- The document of the last update that did not fail, or the first one if there was none. -/
def lastDocument (around : Surroundings) (d : Descriptors) (qs : List Request) : Descriptors :=
  qs.foldl (Request.document around) d

def declared? (around : Surroundings) (d : Descriptors) (id : String) : Option Group :=
  (d.ofGroup id).getLast?.bind (·.group? d.shared around)

/-- A registry holds what a document declares, and nothing else. -/
structure Holds (r : Registry) (around : Surroundings) (d : Descriptors) : Prop where
  around_eq : r.around = around
  group?_eq : ∀ id, r.group? id = declared? around d id

def Reports (around : Surroundings) (d : Descriptors) (ns : List Notice) : Prop :=
  ∃ ms, ns = ms ++ [.rulesUpdated d.ids.toFinset.card around.excluded.length] ∧
    ∀ groups excluded, .rulesUpdated groups excluded ∉ ms

variable {r r' : Registry} {around : Surroundings} {d : Descriptors} {g : GroupDescriptor}
  {shared : RuleData}

theorem group?_eq_some_iff {group : Group} : g.group? shared around = some group ↔
    ∃ rules, (g.ruleSet shared around).result = .ok rules ∧
      ⟨some rules, g.versions, g.builds⟩ = group := by
  simp only [GroupDescriptor.group?, Option.map_eq_some_iff, exceptToOption_some]

theorem build_ok_iff_group? {e : String × Group} : (build around shared g).result = .ok e ↔
    g.id = e.1 ∧ g.group? shared around = some e.2 := by
  rw [build_ok_iff, group?_eq_some_iff]
  constructor
  · rintro ⟨rules, hrules, rfl⟩
    exact ⟨rfl, rules, hrules, rfl⟩
  · rintro ⟨hid, rules, hrules, hgroup⟩
    exact ⟨rules, hrules, Prod.ext hid.symm hgroup.symm⟩

theorem exists_update_iff : (∃ r', (r.update d).result = .ok r') ↔ d.isBuilt r.around = true := by
  have hbuild : ∀ g, (∃ e, (build r.around d.shared g).result = .ok e) ↔
      (g.group? d.shared r.around).isSome = true := by
    intro g
    simp only [build_ok_iff_group?, Option.isSome_iff_exists]
    exact ⟨fun ⟨e, _, he⟩ => ⟨e.2, he⟩, fun ⟨group, hgroup⟩ => ⟨(g.id, group), rfl, hgroup⟩⟩
  simp only [Descriptors.isBuilt, List.all_eq_true, ← hbuild, ← Building.exists_mapM_iff,
    Building.mapM_result_ok, update_ok_iff]
  exact ⟨fun ⟨_, es, hes, _⟩ => ⟨es, hes⟩, fun ⟨es, hes⟩ => ⟨_, es, hes, rfl⟩⟩

theorem lookup_built {id : String} {gs : List GroupDescriptor} {es : List (String × Group)}
    (h : List.Forall₂ (fun g e => (build around shared g).result = .ok e) gs es) :
    List.lookup id es = (gs.find? (·.id = id)).bind (·.group? shared around) := by
  induction h with
  | nil => rfl
  | @cons g e gs es hg _ ih =>
    obtain ⟨k, group⟩ := e
    obtain ⟨rfl, hgroup⟩ := build_ok_iff_group?.1 hg
    rw [Named.lookup_cons, ih, List.find?_cons]
    by_cases hid : id = g.id
    · simp [hid, hgroup]
    · have hid' : ¬g.id = id := fun hg => hid hg.symm
      simp [hid, hid']

theorem holds_update (h : (r.update d).result = .ok r') : r'.Holds r.around d := by
  obtain ⟨es, hes, rfl⟩ := update_ok_iff.1 h
  refine ⟨rfl, fun id => ?_⟩
  rw [group?, Named.lookup_ofList, lookup_built (List.rel_reverse hes), declared?,
    Descriptors.ofGroup, ← List.head?_reverse, ← List.filter_reverse, List.head?_filter]

theorem Holds.respond (h : r.Holds around d) (q : Request) :
    (r.respond q).1.Holds around (q.document around d) := by
  cases q with
  | lookup id => exact h
  | update d' =>
    have hr := h.around_eq
    subst hr
    have hiff := @exists_update_iff r d'
    rcases hu : r.update d' with ⟨ns, m | r'⟩
    · have hfails : d'.isBuilt r.around = false := by simpa [hu] using hiff
      simpa [Registry.respond, hu, Request.document, hfails] using h
    · have hbuilt : d'.isBuilt r.around = true := by simpa [hu] using hiff
      have hholds : r'.Holds r.around d' := holds_update (congrArg Building.result hu)
      simpa [Registry.respond, hu, Request.document, hbuilt] using hholds

theorem Holds.after (h : r.Holds around d) (qs : List Request) :
    (r.after qs).Holds around (lastDocument around d qs) := by
  induction qs generalizing r d with
  | nil => exact h
  | cons q qs ih => exact ih (h.respond q)

theorem holds_load (h : (load around d).result = .ok r) : r.Holds around d := holds_update h

theorem not_mem_chain (s : Scope) (specifiers : List String) (groups excluded : Nat) :
    .rulesUpdated groups excluded ∉ (Specifier.chain s specifiers).notices := by
  intro h
  obtain ⟨t, -, ht⟩ := Building.mem_mapM_notices h
  obtain ⟨us, hus, -⟩ := @Specifier.flatMap_notices s [t]
  rw [List.flatMap_singleton] at hus
  rw [hus] at ht
  obtain ⟨u, -, hu⟩ := List.mem_map.1 ht
  cases hu

theorem not_mem_ruleSet (g : GroupDescriptor) (shared : RuleData) (around : Surroundings)
    (groups excluded : Nat) :
    .rulesUpdated groups excluded ∉ (g.ruleSet shared around).notices := by
  unfold GroupDescriptor.ruleSet
  cases g.rules with
  | none => simp
  | some rd =>
    intro h
    obtain h | ⟨fields, -, h⟩ := Building.mem_notices_bind h
    · obtain ⟨field, -, h⟩ := Building.mem_mapM_notices h
      obtain h | ⟨rules, -, h⟩ := Building.mem_notices_bind h
      · exact not_mem_chain _ _ _ _ h
      · cases h
    · obtain h | ⟨ids, -, h⟩ := Building.mem_notices_bind h
      · exact not_mem_chain _ _ _ _ h
      · simp only [RuleSet.notice] at h
        obtain h | ⟨-, -, h⟩ := Building.mem_notices_bind h
        · cases List.mem_singleton.1 h
        · cases h

theorem not_mem_mapM_build {gs : List GroupDescriptor} (groups excluded : Nat) :
    .rulesUpdated groups excluded ∉ (gs.mapM (build around shared)).notices := by
  intro h
  obtain ⟨g, -, h⟩ := Building.mem_mapM_notices h
  obtain h | ⟨rules, -, h⟩ := Building.mem_notices_bind h
  · exact not_mem_ruleSet g shared around groups excluded h
  · cases h

theorem reports_update (h : (r.update d).result = .ok r') :
    Reports r.around d (r.update d).notices := by
  obtain ⟨es, hes, -⟩ := update_ok_iff.1 h
  refine ⟨(d.groups.mapM (build r.around d.shared)).notices, ?_, not_mem_mapM_build⟩
  have hids : es.map (·.1) = d.ids := by
    rw [Descriptors.ids, ← List.forall₂_eq_eq_eq, List.forall₂_map_left_iff,
      List.forall₂_map_right_iff]
    exact hes.flip.imp fun _ _ hb => (build_ok_iff_group?.1 hb).1.symm
  rw [update, Building.notices_bind (Building.mapM_result_ok.2 hes), ← hids,
    ← Named.length_ofList]
  rfl

theorem failed_update (h : d.isBuilt r.around = false) :
    ∃ m ns, r.respond (.update d) = (r, .failed m ns) ∧
      ∀ groups excluded, .rulesUpdated groups excluded ∉ ns := by
  rcases hu : r.update d with ⟨ns, m | r'⟩
  · refine ⟨m, ns, by simp only [respond, hu], fun groups excluded hn => ?_⟩
    have hnotices : ns = (r.update d).notices := by rw [hu]
    rw [hnotices] at hn
    obtain hn | ⟨es, hes, -⟩ := Building.mem_notices_bind hn
    · exact not_mem_mapM_build groups excluded hn
    · have hbuilt :=
        exists_update_iff.1 ⟨_, update_ok_iff.2 ⟨es, Building.mapM_result_ok.1 hes, rfl⟩⟩
      simp [h] at hbuilt
  · have hbuilt := exists_update_iff.1 ⟨r', congrArg Building.result hu⟩
    simp [h] at hbuilt

theorem exists_ruleSet_iff {rd : RuleDescriptor} :
    (∃ rules, (rd.ruleSet shared around).result = .ok rules) ↔
      ∀ t ∈ rd.specifiers, ∀ m, ¬Specifier.Stops (rd.scope shared around) t m := by
  have hfield : ∀ field : String × List String,
      (∃ e : String × Chain, (do
        let rules ← Specifier.chain (rd.scope shared around) field.2
        pure (field.1, rules) : Building (String × Chain)).result = .ok e) ↔
      ∀ t ∈ field.2, ∀ m, ¬Specifier.Stops (rd.scope shared around) t m := by
    intro field
    rw [← Specifier.exists_chain_iff]
    simp only [Building.result_bind_ok, Building.pure_result, Except.ok.injEq]
    constructor
    · rintro ⟨_, rules, hrules, -⟩
      exact ⟨rules, hrules⟩
    · rintro ⟨rules, hrules⟩
      exact ⟨_, rules, hrules, rfl⟩
  simp only [RuleDescriptor.specifiers, List.forall_mem_append, List.forall_mem_flatMap, ← hfield,
    ← Building.exists_mapM_iff, ← Specifier.exists_chain_iff]
  simp only [RuleDescriptor.ruleSet, Specifier.chain?, Building.result_bind_ok]
  constructor
  · rintro ⟨_, fields, hfields, ids, hids, -⟩
    exact ⟨⟨fields, hfields⟩, ids, hids⟩
  · rintro ⟨⟨fields, hfields⟩, ids, hids⟩
    exact ⟨_, fields, hfields, ids, hids, (), rfl, rfl⟩

theorem isBuilt_iff : d.isBuilt around = true ↔
    ∀ g ∈ d.groups, ∀ rules, g.rules = some rules → ∀ t ∈ rules.specifiers, ∀ m,
      ¬Specifier.Stops (rules.scope d.shared around) t m := by
  simp only [Descriptors.isBuilt, List.all_eq_true, Option.isSome_iff_exists,
    group?_eq_some_iff, ← exists_ruleSet_iff]
  apply forall₂_congr
  intro g _
  rcases hrules : g.rules with _ | rd
  · simp [GroupDescriptor.ruleSet, hrules]
  · simp [GroupDescriptor.ruleSet, hrules]

theorem ofGroup_eq_nil {id : String} (h : id ∉ d.ids) : d.ofGroup id = [] := by
  rw [Descriptors.ofGroup, List.filter_eq_nil_iff]
  intro g hg hid
  exact h (List.mem_map.2 ⟨g, hg, by simpa using hid⟩)

/-- A look-up gives what the last descriptor of the group in the document in force declares. Nothing
that was asked before matters, nor any other group. In force is the last document that could be
built; one at which the compiler stops changes nothing. -/
theorem lookups_have_no_memory (around : Surroundings) (d : Descriptors) (qs : List Request)
    (h : (load around d).result = .ok r) :
    (∀ id, (r.after qs).respond (.lookup id) =
      (r.after qs, .found (declared? around (lastDocument around d qs) id))) ∧
    (∀ d' r' qs' id, (load around d').result = .ok r' →
      (lastDocument around d qs).shared = (lastDocument around d' qs').shared →
      ((lastDocument around d qs).ofGroup id).getLast? =
        ((lastDocument around d' qs').ofGroup id).getLast? →
      (r.after qs).group? id = (r'.after qs').group? id) ∧
    (∀ id, id ∉ (lastDocument around d qs).ids → (r.after qs).group? id = none ∧
      ∀ version build, (r.after qs).accepts id version build = false) ∧
    Reports around d (load around d).notices ∧
    ∀ d',
      (d'.isBuilt around = true ↔
        ∀ g ∈ d'.groups, ∀ rules, g.rules = some rules → ∀ t ∈ rules.specifiers, ∀ m,
          ¬Specifier.Stops (rules.scope d'.shared around) t m) ∧
      (d'.isBuilt around = true → ∃ ns,
        ((r.after qs).respond (.update d')).2 = .updated ns ∧ Reports around d' ns) ∧
      (d'.isBuilt around = false → ∃ m ns,
        (r.after qs).respond (.update d') = (r.after qs, .failed m ns) ∧
          ∀ groups excluded, .rulesUpdated groups excluded ∉ ns) := by
  have holds : ∀ {d r} qs, (load around d).result = .ok r →
      (r.after qs).Holds around (lastDocument around d qs) := fun qs h => (holds_load h).after qs
  have haround := (holds qs h).around_eq
  refine ⟨?_, ?_, ?_, reports_update h, fun d' => ⟨isBuilt_iff, ?_, ?_⟩⟩
  · intro id
    rw [respond, (holds qs h).group?_eq]
  · intro d' r' qs' id h' hshared hlast
    rw [(holds qs h).group?_eq, (holds qs' h').group?_eq, declared?, declared?, hshared, hlast]
  · intro id hid
    have none : (r.after qs).group? id = none := by
      rw [(holds qs h).group?_eq, declared?, ofGroup_eq_nil hid]
      rfl
    refine ⟨none, fun version build => ?_⟩
    rw [accepts, none]
    rfl
  · intro hbuilt
    rw [← haround] at hbuilt ⊢
    obtain ⟨r'', hr⟩ := exists_update_iff.2 hbuilt
    refine ⟨_, ?_, reports_update hr⟩
    rcases hu : (r.after qs).update d' with ⟨ns, m | r''⟩
    · simp [hu] at hr
    · simp only [respond, hu]
  · intro hfails
    rw [← haround] at hfails
    exact failed_update hfails

def repeated : Descriptors where
  groups := [⟨"g", [], [⟨some "1", none⟩], none⟩, ⟨"h", [], [], none⟩,
    ⟨"g", [], [⟨some "2", none⟩], none⟩]
  shared := .empty

def rearranged : Descriptors where
  groups := [⟨"i", [], [], none⟩, ⟨"g", [], [⟨some "2", none⟩], none⟩,
    ⟨"h", [⟨none, some "3"⟩], [], none⟩]
  shared := .empty

def stopping : Descriptors where
  groups := [⟨"i", [], [], some ⟨some ["{regexp:a{4294967295}}"], none, none, none⟩⟩]
  shared := .empty

theorem exists_load (hbuilt : d.isBuilt around = true) : ∃ r, (load around d).result = .ok r :=
  exists_update_iff.2 hbuilt

theorem repeated_looked_up :
    ∃ r r', (load sampleSurroundings sampleDescriptors).result = .ok r ∧
      (load sampleSurroundings repeated).result = .ok r' ∧
      let s := r.after [.update repeated, .update stopping, .lookup "h"]
      let s' := r'.after [.update sampleDescriptors, .update rearranged]
      s.group? "g" = some ⟨some .empty, [⟨some "2", none⟩], []⟩ ∧
        s.group? "g" = s'.group? "g" ∧ s.group? "i" = none := by
  have hrepeated : repeated.isBuilt sampleSurroundings = true := by decide +kernel
  have hstopping : stopping.isBuilt sampleSurroundings = false := by decide +kernel
  have hsample : sampleDescriptors.isBuilt sampleSurroundings = true := by decide +kernel
  have hrearranged : rearranged.isBuilt sampleSurroundings = true := by decide +kernel
  obtain ⟨r, hr⟩ := exists_load hsample
  obtain ⟨r', hr'⟩ := exists_load hrepeated
  obtain ⟨lookup, isolated, unknown, -⟩ := lookups_have_no_memory sampleSurroundings
    sampleDescriptors [.update repeated, .update stopping, .lookup "h"] hr
  have hlast : lastDocument sampleSurroundings sampleDescriptors
      [.update repeated, .update stopping, .lookup "h"] = repeated := by
    simp [lastDocument, Request.document, hrepeated, hstopping]
  have hlast' : lastDocument sampleSurroundings repeated
      [.update sampleDescriptors, .update rearranged] = rearranged := by
    simp [lastDocument, Request.document, hsample, hrearranged]
  have found := congrArg Prod.snd (lookup "g")
  rw [hlast] at isolated unknown found
  refine ⟨r, r', hr, hr', Reply.found.inj found, ?_, (unknown "i" (by decide)).1⟩
  exact isolated repeated r' _ "g" hr' (by rw [hlast']; rfl) (by rw [hlast']; rfl)

/-- A new document that declares one group, at which the compiler stops: the group is not known
afterwards, and one that the document does not declare is. -/
theorem stopping_update_keeps_groups :
    ∃ r, (load sampleSurroundings repeated).result = .ok r ∧ "h" ∉ stopping.ids ∧
      (∃ g, (r.after [.update stopping]).group? "h" = some g) ∧
      "i" ∈ stopping.ids ∧ (r.after [.update stopping]).group? "i" = none := by
  have hrepeated : repeated.isBuilt sampleSurroundings = true := by decide +kernel
  have hstopping : stopping.isBuilt sampleSurroundings = false := by decide +kernel
  obtain ⟨r, hr⟩ := exists_load hrepeated
  have hlast : lastDocument sampleSurroundings repeated [.update stopping] = repeated := by
    simp [lastDocument, Request.document, hstopping]
  have hgroup := ((holds_load hr).after [.update stopping]).group?_eq
  rw [hlast] at hgroup
  refine ⟨r, hr, by decide, ⟨_, (hgroup "h").trans rfl⟩, by decide, (hgroup "i").trans rfl⟩

end Registry

end Allowlist
