import Allowlist.Proofs.Pattern.Enclosed
import Allowlist.Proofs.Specifier.Expression
import Allowlist.Proofs.Specifier.Unclosed

/-!
Expressions with a malformed part. Each regular expression is put into a group of its own, and only
the whole is compiled. Where a part does not close its group and does not go on in what follows, it
has to be well-formed alone.
-/

namespace Allowlist

open Pattern Pattern.Token Pattern.Reader

namespace Specifier

/-- An expression has a reference to a group somewhere, or a condition on one. -/
def Refers (e : String) : Prop := ∃ us, us <:+ ofChars e.toList ∧ IsReference us

variable {s : Scope} {g : Glossary} {r z : Reader} {e : String} {cs : List Char}

theorem spells_of_reads {r' : Reader} {as : List Char} (h : Reads r (ofChars as) r' []) :
    Token.Spells as (ofChars as) := by
  obtain h | ⟨ds, -, -, hlone⟩ := spells_or_lone as
  · exact h
  · obtain ⟨passed, hpassed, heq⟩ := h.suffix
    rw [hlone, List.append_nil] at heq
    exact absurd (heq ▸ by simp) hpassed

theorem reads_open (hs : Reads r (ofChars ('(' :: '?' :: ':' :: cs)) z []) :
    Reads (r.openLevel .bare r.mode) (ofChars cs) z [] := by
  have hopen : r.step? (.char '(') (.char '?' :: .char ':' :: ofChars cs) =
      .ok (r.openLevel .bare r.mode, ofChars cs) := step?_open _ _
  rw [ofChars_cons (by decide), ofChars_cons (by decide), ofChars_cons (by decide)] at hs
  exact (Reads.one hopen).past hs

theorem reads_part {q : Regexp} (hq : Regexp.compile g e = .ok q) (hr : r.Between g)
    (hs : Reads r (ofChars (("(?:" ++ e ++ ")").toList ++ cs)) z []) :
    ∃ r', r'.Between g ∧ Reads r' (ofChars cs) z [] := by
  obtain ⟨p, hp, -⟩ := exceptMap_ok.1 hq
  obtain ⟨r₁, hread, hfinish⟩ := ofText_ok_iff.1 hp
  have hinside : Reads (r.openLevel .bare r.mode) (ofChars e.toList ++ .char ')' :: ofChars cs)
      z [] := by
    have hopen : Reads (r.openLevel .bare r.mode) (ofChars (e.toList ++ ')' :: cs)) z [] :=
      reads_open (by simpa using hs)
    rwa [spells_of_reads hread, ofChars_cons (by decide)] at hopen
  obtain ⟨s', hs', hbeside⟩ := (hr.beside (b := .loose) nofun).reads hread
    (finish_ok hfinish).1 hinside
  obtain ⟨hclose, hbetween⟩ := hbeside.close?_between (finish_ok hfinish).1 hr (ofChars cs)
  have hbehind := hs'.trans (.one ((step?_close _ _).trans hclose))
  exact ⟨_, hbetween, hbehind.past hinside⟩

theorem reads_fragments {fs : List Pattern.Fragment} {as : List Char}
    (has : Token.Spells as (fs.flatMap Fragment.tokens)) (hs : Reads r (ofChars (as ++ cs)) z []) :
    Reads (r.add (fs.reverse.flatMap (Fragment.items r.mode))) (ofChars cs) z [] := by
  rw [has] at hs
  exact (Fragment.reads_all fs r _).past hs

theorem reads_parts {ts : List String} {a : String}
    (hts : ∀ t ∈ ts, ∀ e, regexp? s t = some e → ∃ q, Regexp.compile s.glossary e = .ok q)
    (ha : expression s ts = .ok a) (hr : r.Between s.glossary)
    (hs : Reads r (ofChars (a.toList ++ cs)) z []) :
    ∃ r', r'.Between s.glossary ∧ Reads r' (ofChars cs) z [] := by
  induction ts generalizing r a with
  | nil =>
    cases ha
    exact ⟨r, hr, hs⟩
  | cons t ts ih =>
    obtain ⟨f, a', hf, ha', rfl⟩ := expression_cons_ok.1 ha
    obtain ⟨ht, hts⟩ := List.forall_mem_cons.1 hts
    rw [String.toList_append, List.append_assoc] at hs
    cases he : regexp? s t with
    | none =>
      obtain ⟨g, hg⟩ := exists_fragment he hf
      have hspells : Token.Spells f.toList ([g].flatMap Fragment.tokens) := by simpa using hg
      exact ih hts ha' (hr.add _) (reads_fragments hspells hs)
    | some e =>
      obtain ⟨q, hq⟩ := ht e he
      rw [fragment?_of_regexp? he, Option.some.injEq] at hf
      obtain ⟨r', hr', hs'⟩ := reads_part hq hr (hf ▸ hs)
      exact ih hts ha' hr' hs'

/-- A part of an expression that compiles compiles alone, closes its group too early or goes on in
what follows it. -/
theorem compiles_or_leaves {ts us : List String} {t w : String} {q : Regexp}
    (hw : expression s (ts ++ t :: us) = .ok w) (hq : Regexp.compile s.glossary w = .ok q)
    (ht : regexp? s t = some e)
    (hts : ∀ t ∈ ts, ∀ e, regexp? s t = some e → ∃ q, Regexp.compile s.glossary e = .ok q)
    (hrefs : (∀ u ∈ ts ++ us, regexp? s u = none) ∨
      ∀ w, expression s (t :: us) = .ok w → ¬Refers w) :
    ClosesOutside s.glossary e.toList ∨ (∃ q, Regexp.compile s.glossary e = .ok q) ∨
      (¬∀ u ∈ us, regexp? s u = none) ∧ ∃ d q, Regexp.compile s.glossary (e ++ d) = .ok q := by
  obtain ⟨p, hp, -⟩ := exceptMap_ok.1 hq
  obtain ⟨z, hread, hz⟩ := ofText_ok_iff.1 hp
  obtain ⟨a, b, ha, htail, rfl⟩ := expression_append_ok.1 hw
  obtain ⟨f, c, hf, hc, rfl⟩ := expression_cons_ok.1 htail
  rw [fragment?_of_regexp? ht, Option.some.injEq] at hf
  subst hf
  have hcompile : ∀ {x p}, ofText s.glossary x = .ok p →
      ∃ q, Regexp.compile s.glossary x = .ok q := fun h => ⟨_, by rw [Regexp.compile, h]; rfl⟩
  have hfragments : (∀ u ∈ us, regexp? s u = none) →
      ∃ fs : List Pattern.Fragment, ofChars c.toList = fs.flatMap Fragment.tokens := fun hus =>
    (exists_fragments hus hc).imp fun _ h => h.eq
  have hparts : Reads (start s.glossary)
      (ofChars (a.toList ++ '(' :: '?' :: ':' :: (e.toList ++ ')' :: c.toList))) z [] := by
    simpa using hread
  -- Where there are other expressions, the numbers of groups may be others in the whole.
  have hbeside : ∃ b base s', b ≠ .loose ∧ Beside b base (start s.glossary) s' ∧
      Reads s' (ofChars (e.toList ++ ')' :: c.toList)) z [] ∧
      (b = .apart → ∀ us, us <:+ ofChars (e.toList ++ ')' :: c.toList) → ¬IsReference us) ∧
      (b = .same → ∀ u ∈ us, regexp? s u = none) := by
    obtain hothers | hrefs := hrefs
    · obtain ⟨fs, hfs⟩ := exists_fragments (fun u hu => hothers u (by simp [hu])) ha
      have hreads := reads_open (reads_fragments hfs hparts)
      refine ⟨.same, _, _, nofun, ((between_start _).add _).beside fun _ => ⟨rfl, rfl, rfl, rfl⟩,
        hreads, nofun, fun _ u hu => hothers u (by simp [hu])⟩
    · obtain ⟨r, hr, hreads⟩ := reads_parts hts ha (between_start _) hparts
      refine ⟨.apart, _, _, nofun, hr.beside nofun, reads_open hreads, ?_, nofun⟩
      intro _ us hus href
      refine hrefs _ htail ⟨us, hus.trans ?_, href⟩
      have hsuffix := List.suffix_append [char '(', .char '?', .char ':']
        (ofChars (e.toList ++ ')' :: c.toList))
      simpa [ofChars_cons] using hsuffix
  obtain ⟨b, base, s', hb, hbeside, hreads, hrefs, hsame⟩ := hbeside
  obtain hclose | ⟨_, hp⟩ | ⟨hnone, d, _, hp⟩ :=
    hbeside.exists_ofText hb hreads hz hrefs fun e => hfragments (hsame e)
  · exact .inl hclose
  · exact .inr (.inl (hcompile hp))
  · exact .inr (.inr ⟨fun hus => hnone (hfragments hus), d, hcompile hp⟩)

/-- The first malformed part of an expression leaves it unresolved, so that it accepts nothing,
unless the part closes the group that it is put into, or goes on in a part that follows, or there
are references to groups of other parts. -/
theorem malformed_part_accepts_nothing {specifier t : String} {before after : List String}
    (hparts : parts specifier = before ++ t :: after) (hne : before ++ after ≠ [])
    (ht : regexp? s t = some e) (hmalformed : ∀ q, Regexp.compile s.glossary e ≠ .ok q)
    (hfirst : ∀ u ∈ before, ∀ d, regexp? s u = some d → ∃ q, Regexp.compile s.glossary d = .ok q)
    (hcloses : ¬ClosesOutside s.glossary e.toList)
    (hends : (∀ u ∈ after, regexp? s u = none) ∨
      ∀ d q, Regexp.compile s.glossary (e ++ d) ≠ .ok q)
    (hrefs : (∀ u ∈ before ++ after, regexp? s u = none) ∨
      ∀ w, expression s (t :: after) = .ok w → ¬Refers w) :
    ((∃ kind, resolve s specifier = unresolved kind specifier) ∨
      ∃ m, resolve s specifier = ⟨[], .error m⟩) ∧
        ∀ text ctx, ¬Accepts s specifier text ctx := by
  obtain ⟨p, hp, -⟩ := Option.bind_eq_some_iff.1 ht
  have hresolve : (∃ kind, resolve s specifier = unresolved kind specifier) ∨
      ∃ m, resolve s specifier = ⟨[], .error m⟩ := by
    rw [resolve_of_parts hparts hne hp, resolveExpression]
    cases hw : expression s (before ++ t :: after) with
    | error kind => exact .inl ⟨kind, rfl⟩
    | ok w =>
      rcases hq : Regexp.compile s.glossary w with (_ | m) | q
      · exact .inl ⟨"expression", by dsimp only; rw [hq]; rfl⟩
      · exact .inr ⟨m, by dsimp only; rw [hq]; rfl⟩
      · exfalso
        obtain hout | ⟨q, he⟩ | ⟨hregexp, d, q, hd⟩ := compiles_or_leaves hw hq ht hfirst hrefs
        · exact hcloses hout
        · exact hmalformed q he
        · exact hends.elim hregexp fun h => h d q hd
  refine ⟨hresolve, fun text ctx => ?_⟩
  rintro ⟨r, hr, haccept⟩
  obtain ⟨kind, h⟩ | ⟨m, h⟩ := hresolve
  · rw [h] at hr
    cases hr
    cases haccept
  · rw [h] at hr
    cases hr

def openSet : String := "x_{regexp:a}{regexp:[}"

theorem open_set_accepts_nothing :
    parts openSet = ["x_", "{regexp:a}"] ++ "{regexp:[}" :: [] ∧
      regexp? bareScope "{regexp:[}" = some "[" ∧
      (∀ q, Regexp.compile bareScope.glossary "[" ≠ .ok q) ∧
      (∀ u ∈ ["x_", "{regexp:a}"], ∀ d, regexp? bareScope u = some d →
        ∃ q, Regexp.compile bareScope.glossary d = .ok q) ∧
      ¬ClosesOutside bareScope.glossary "[".toList ∧
      (∀ w, expression bareScope ["{regexp:[}"] = .ok w → ¬Refers w) ∧
      ∀ text ctx, ¬Accepts bareScope openSet text ctx := by
  have hparts : parts openSet = ["x_", "{regexp:a}"] ++ "{regexp:[}" :: [] := by decide +kernel
  have ht : regexp? bareScope "{regexp:[}" = some "[" := by decide +kernel
  have hmalformed : ∀ q, Regexp.compile bareScope.glossary "[" ≠ .ok q := by
    rw [show Regexp.compile bareScope.glossary "[" = .error .malformed by decide +kernel]
    exact nofun
  have hfirst : ∀ u ∈ ["x_", "{regexp:a}"], ∀ d, regexp? bareScope u = some d →
      ∃ q, Regexp.compile bareScope.glossary d = .ok q := by
    intro u hu d hd
    obtain rfl | rfl : u = "x_" ∨ u = "{regexp:a}" := by simpa using hu
    · rw [show regexp? bareScope "x_" = none by decide +kernel] at hd
      cases hd
    · rw [show regexp? bareScope "{regexp:a}" = some "a" by decide +kernel] at hd
      cases hd
      exact ⟨_, rfl⟩
  have hcloses : ¬ClosesOutside bareScope.glossary "[".toList := by
    rintro ⟨r, rest, hr, -⟩
    obtain @⟨_, _⟩ | ⟨h, -⟩ := hr
    cases h
  have hrefs : ∀ w, expression bareScope ["{regexp:[}"] = .ok w → ¬Refers w := by
    intro w hw
    rw [show expression bareScope ["{regexp:[}"] = .ok "(?:[)" by decide +kernel] at hw
    cases hw
    rintro ⟨us, hus, href⟩
    have htokens : ofChars "(?:[)".toList = chars "(?:[)".toList := by decide +kernel
    rw [htokens] at hus
    simp only [String.reduceToList, List.map_cons, List.map_nil, List.suffix_cons_iff,
      List.suffix_nil] at hus
    obtain rfl | rfl | rfl | rfl | rfl | rfl := hus <;> exact href
  refine ⟨hparts, ht, hmalformed, hfirst, hcloses, hrefs, ?_⟩
  exact (malformed_part_accepts_nothing hparts (List.cons_ne_nil _ _) ht hmalformed hfirst hcloses
    (.inl (by simp)) (.inr hrefs)).2

/-- A malformed part that closes its group and opens another one makes a rule that accepts. -/
theorem closing_part_accepts :
    parts "{regexp:a)(?:b}x" = [] ++ "{regexp:a)(?:b}" :: ["x"] ∧
      regexp? bareScope "{regexp:a)(?:b}" = some "a)(?:b" ∧
      Regexp.compile bareScope.glossary "a)(?:b" = .error .malformed ∧
      Accepts bareScope "{regexp:a)(?:b}x" "abx" ⟨"", none⟩ := by
  have hparts : parts "{regexp:a)(?:b}x" = [] ++ "{regexp:a)(?:b}" :: ["x"] := by decide +kernel
  have hread : read? "{regexp:a)(?:b}" = some ⟨"regexp", .inline, "a)(?:b"⟩ := by decide +kernel
  obtain ⟨r, hr, haccept⟩ : ∃ r, Regexp.compile bareScope.glossary "(?:a)(?:b)x" = .ok r ∧
      r.accepts "abx" = true := ⟨_, rfl, by decide +kernel⟩
  refine ⟨hparts, by decide +kernel, by decide +kernel, .regexp r, ?_, ?_⟩
  · rw [resolve_of_parts hparts (List.cons_ne_nil _ _) hread, resolveExpression,
      show expression bareScope ([] ++ "{regexp:a)(?:b}" :: ["x"]) = .ok "(?:a)(?:b)x" by
        decide +kernel]
    simp only [hr]
    rfl
  · simp [Rule.evaluate, Rule.acceptsEither, haccept, Rule.verdictOf]

end Specifier

end Allowlist
