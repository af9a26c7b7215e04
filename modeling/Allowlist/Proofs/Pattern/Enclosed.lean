import Allowlist.Proofs.Pattern.Beside

namespace Allowlist.Pattern

open Token Reader

variable {b : Bond} {g : Glossary} {base r r' s s' z : Reader} {ts us rest : List Token}

structure Reader.Between (g : Glossary) (r : Reader) : Prop where
  glossary : r.glossary = g
  opening : r.level.opening = .top
  mode : r.mode = .initial
  outer : r.outer = []
  horizon : r.horizon = none
  unicode : r.unicode = false
  template : r.template = false

theorem Reader.between_start (g : Glossary) : (start g).Between g :=
  ⟨rfl, rfl, rfl, rfl, rfl, rfl, rfl⟩

theorem Reader.Between.add (h : s.Between g) (items : List (Role × Pattern)) :
    (s.add items).Between g :=
  { h with }

theorem Reader.Between.beside (h : s.Between g)
    (hsame : b = .same → 1 = s.groups ∧ [] = s.names ∧ [] = s.widths ∧ [] = s.awaited) :
    Beside b s (start g) (s.openLevel .bare s.mode) where
  glossary := ⟨h.glossary.symm, rfl⟩
  stacked := by
    rw [show (s.openLevel .bare s.mode).outer = [s.level] by simp [openLevel, h.outer]]
    exact .bottom rfl rfl rfl ⟨h.mode.symm, .nil, .nil⟩
  horizon := by simp [start, openLevel, h.horizon]
  unicode := ⟨rfl, h.unicode⟩
  template := ⟨rfl, h.template⟩
  known hb := by
    obtain ⟨hgroups, hnames, hwidths, hawaited⟩ := hsame hb
    exact ⟨hgroups, hnames, hwidths, h.horizon.symm, hawaited⟩
  names _ _ _ := rfl
  awaited _ := rfl
  unfit _ hu := nomatch hu

namespace Beside

theorem bottom (h : Beside b base r s) (hr : r.outer = []) :
    s.level.opening = .bare ∧ s.outer = [base.level] ∧ r.horizon = none ∧ r.mode = .initial := by
  have hstacked := h.stacked
  rw [hr] at hstacked
  generalize houter : s.outer = ls at hstacked
  generalize hclear : r.horizon.isNone = clear at hstacked
  cases hstacked with
  | bottom _ hbare hmode _ => exact ⟨hbare, rfl, Option.isNone_iff_eq_none.1 hclear, hmode⟩

theorem close?_between (h : Beside b base r s) (hr : r.outer = []) (hbase : base.Between g)
    (ts : List Token) :
    s.close? ts = .ok (s.closeWith base.level [] s.level.body, ts) ∧
      (s.closeWith base.level [] s.level.body).Between g := by
  obtain ⟨hbare, houter, hhorizon, -⟩ := h.bottom hr
  refine ⟨close?_bare hbare houter ts, h.glossary.2.trans hbase.glossary, hbase.opening,
    hbase.mode, rfl, ?_, h.unicode.2, h.template.2⟩
  rw [← Option.isNone_iff_eq_none]
  exact h.horizon.symm.trans (by rw [hhorizon]; rfl)

theorem reads (h : Beside .loose base r s) (hr : Reads r ts r' []) (hout : r'.outer = [])
    (hs : Reads s (ts ++ .char ')' :: us) z []) :
    ∃ s', Reads s (ts ++ .char ')' :: us) s' (.char ')' :: us) ∧ Beside .loose base r' s' := by
  generalize hnil : ([] : List Token) = stop at hr
  induction hr generalizing s with
  | here r =>
    subst hnil
    exact ⟨s, .here _ _, h⟩
  | @step r r₁ r' t ts ts₁ stop hstep hr ih =>
    subst hnil
    obtain hmoves | hruns := step?_moves hstep
    · obtain ⟨piece, rfl, -, hagain⟩ := hmoves.passes
      have hcut : Cuts ts₁ (ts₁ ++ .char ')' :: us) := by
        simpa using (show Cuts [] (.char ')' :: us) from .edge (.close us)).append ts₁
      have halone := hagain hcut
      have hclose : t = .char ')' → r.outer ≠ [] := by
        rintro rfl hnil
        rw [step?_close, Reader.close?, hnil] at hstep
        cases hstep
      rw [List.cons_append, List.append_assoc] at hs ⊢
      obtain @⟨_, _⟩ | ⟨hinside, hs⟩ := hs
      obtain ⟨r₂, hr₂, h₂⟩ | ⟨-, e, he⟩ := h.step? (by simp) hclose _ _ hinside
      · rw [halone] at hr₂
        cases hr₂
        obtain ⟨s', hs', hbeside⟩ := ih h₂ hout hs rfl
        exact ⟨s', .step hinside hs', hbeside⟩
      · rw [halone] at he
        cases he
    · -- no verbose comment runs out at the bottom
      obtain ⟨passed, hlone, rfl⟩ := hr.suffix
      obtain rfl : passed = [] := by
        cases passed with
        | nil => rfl
        | cons u passed =>
          obtain rfl := hruns.beyond u rfl
          exact absurd List.mem_cons_self hlone
      obtain rfl := hruns.reader_eq
      cases hr
      have hmode := (h.bottom hout).2.2.2
      have hverbose := hruns.verbose
      rw [hmode] at hverbose
      cases hverbose

theorem exists_finish (h : Beside b base r s) (hb : b ≠ .loose) (hout : r.outer = [])
    (hunfit : s.unfit = false) (hawaited : b = .same → r.awaited.all (· < r.groups) = true) :
    ∃ p, r.finish = .ok p := by
  have hall : r.awaited.all (· < r.groups) = true := by
    cases b with
    | loose => exact absurd rfl hb
    | apart => rw [h.awaited rfl]; rfl
    | same => exact hawaited rfl
  have hfit : r.unfit = false := by
    cases hr : r.unfit with
    | false => rfl
    | true => rw [h.unfit hb hr] at hunfit; cases hunfit
  exact ⟨r.level.body, by simp [finish, hout, clashes, h.unicode.1, h.template.1, hfit, hall]⟩

end Beside

namespace Fragment

theorem lone_not_mem (fs : List Fragment) : .lone ∉ fs.flatMap tokens := by
  have hliteral : ∀ s : String, .lone ∉ s.toList.map literal := by
    intro s h
    obtain ⟨c, -, hc⟩ := List.mem_map.1 h
    by_cases hm : c ∈ Regexp.metacharacters <;> simp [literal, hm] at hc
  have hbranches : ∀ ss, .lone ∉ branches ss := by
    intro ss
    induction ss using branches.induct with
    | case1 => simp [branches]
    | case2 s => exact hliteral s
    | case3 s t ss ih => simp [branches, ih, hliteral s]
  intro h
  obtain ⟨f, -, hf⟩ := List.mem_flatMap.1 h
  cases f with
  | text s => exact hliteral s hf
  | choice ss => simp [tokens, hbranches ss] at hf

theorem rest_cases {own : Token} {before passed rest : List Token} {fs : List Fragment}
    (h : before ++ own :: fs.flatMap tokens = passed ++ rest) :
    (∃ before', rest = before' ++ own :: fs.flatMap tokens) ∨
      ∃ mid, passed = before ++ own :: mid ∧ fs.flatMap tokens = mid ++ rest := by
  obtain ⟨mid, rfl, hrest⟩ | ⟨mid, rfl, hrest⟩ := List.append_eq_append_iff.1 h
  · cases mid with
    | nil => exact .inl ⟨[], hrest.symm⟩
    | cons t mid =>
      obtain ⟨rfl, htail⟩ := List.cons.inj hrest
      exact .inr ⟨mid, rfl, htail⟩
  · exact .inl ⟨mid, hrest⟩

theorem after_piece {own : Token} {before mid rest : List Token} {fs : List Fragment}
    (hown : own = .char ')' ∨ own = .escaped ')') (hpiece : Piece (before ++ own :: mid))
    (h : fs.flatMap tokens = mid ++ rest) : ∃ fs' : List Fragment, rest = fs'.flatMap tokens := by
  obtain rfl | ⟨mid, t, rfl⟩ := mid.eq_nil_or_concat
  · exact ⟨fs, h.symm⟩
  rw [List.concat_eq_append] at hpiece h
  rw [List.append_assoc, List.singleton_append] at h
  generalize hp : before ++ own :: (mid ++ [t]) = piece at hpiece
  cases hpiece with
  | @plain cs hcs =>
    have hmem : own ∈ chars cs := hp ▸ by simp
    obtain rfl | rfl := hown <;> simp_all
  | @closed us c _ hc =>
    rw [← List.cons_append, ← List.append_assoc] at hp
    obtain rfl : t = .char c := by simpa using (List.append_inj' hp rfl).2
    by_cases hclose : c = ')'
    · obtain ⟨fs', -, hrest⟩ := after_close (hclose ▸ h)
      exact ⟨fs', hrest⟩
    · have hmem : .char c ∈ fs.flatMap tokens := h ▸ by simp
      obtain ⟨f, -, hf⟩ := List.mem_flatMap.1 hmem
      have hstop : c ∈ Regexp.metacharacters ∧ c ∉ ['(', '?', ':', '|', ')'] := by
        simp only [List.mem_cons, List.not_mem_nil, or_false, hclose, false_or] at hc
        obtain rfl | rfl | rfl := hc <;> decide +kernel
      exact absurd hf (not_mem_tokens hstop.1 hstop.2 f)

theorem step?_cases {own t : Token} {before ts rest : List Token} {fs : List Fragment}
    {r r' : Reader} (hown : own = .char ')' ∨ own = .escaped ')')
    (hts : t :: ts = before ++ own :: fs.flatMap tokens) (h : r.step? t ts = .ok (r', rest)) :
    (∃ before', rest = before' ++ own :: fs.flatMap tokens) ∨
      ∃ fs' : List Fragment, rest = fs'.flatMap tokens := by
  cases before with
  | nil =>
    obtain ⟨rfl, rfl⟩ := List.cons.inj hts
    obtain rfl | rfl := hown
    · rw [step?_close] at h
      exact .inr ⟨fs, (close?_rest h).1⟩
    · rw [step?, escape?_metacharacter (by decide +kernel)] at h
      cases h
      exact .inr ⟨fs, rfl⟩
  | cons u before =>
    obtain ⟨rfl, rfl⟩ := List.cons.inj hts
    obtain ⟨⟨piece, hpiece, hp, -⟩, -⟩ | hruns := step?_moves h
    · obtain hbefore | ⟨mid, rfl, hmid⟩ := rest_cases hpiece
      · exact .inl hbefore
      · exact .inr (after_piece hown hp hmid)
    · obtain ⟨piece, -, hpiece⟩ := hruns.suffix
      obtain hbefore | ⟨mid, rfl, hmid⟩ := rest_cases hpiece
      · exact .inl hbefore
      · cases rest with
        | nil => exact .inr ⟨[], rfl⟩
        | cons u rest =>
          obtain rfl := hruns.beyond u rfl
          exact absurd (hmid ▸ by simp) (lone_not_mem fs)

end Fragment

/-- Where a reader is if fragments are all that follows the text in the group: it has not yet passed
the parenthesis before them, which a backslash at the end of the text may escape. -/
def BeforeFragments (cs : List Char) (ts : List Token) : Prop :=
  (∃ fs : List Fragment, ofChars cs = fs.flatMap Fragment.tokens) →
    ∃ before own, (own = .char ')' ∨ own = .escaped ')') ∧ ts = before ++ own :: ofChars cs

theorem beforeFragments (e cs : List Char) : BeforeFragments cs (ofChars (e ++ ')' :: cs)) := by
  intro _
  obtain he | ⟨ds, rfl, hds, -⟩ := spells_or_lone e
  · exact ⟨ofChars e, _, .inl rfl, by rw [he, ofChars_cons (by decide)]⟩
  · refine ⟨ofChars ds, _, .inr rfl, ?_⟩
    rw [List.append_assoc, hds]
    rfl

theorem BeforeFragments.step {cs : List Char} {t : Token} (h : BeforeFragments cs (t :: ts))
    (hstep : r.step? t ts = .ok (r', rest)) :
    BeforeFragments cs rest ∨ ∃ fs : List Fragment, rest = fs.flatMap Fragment.tokens := by
  by_cases hfs : ∃ fs : List Fragment, ofChars cs = fs.flatMap Fragment.tokens
  · obtain ⟨before, own, hown, heq⟩ := h hfs
    obtain ⟨fs, hfs⟩ := hfs
    rw [hfs] at heq
    refine (Fragment.step?_cases hown heq hstep).imp_left ?_
    rintro ⟨before', rfl⟩ -
    exact ⟨before', own, hown, by rw [hfs]⟩
  · exact .inl fun h => absurd h hfs

/-- In a group of its own a text that could be read has to close the group. Where the text alone
goes the same way, it gets there as well. -/
theorem Beside.exists_close {cs : List Char} (hb : b ≠ .loose) (h : Beside b base r s)
    (hs : Reads s ts z []) (hz : z.outer = []) (hts : BeforeFragments cs ts)
    (hrefs : b = .apart → ∀ us, us <:+ ts → ¬IsReference us) :
    ∃ r' s' rest, BeforeFragments cs (.char ')' :: rest) ∧ Reads r ts r' (.char ')' :: rest) ∧
      Reads s ts s' (.char ')' :: rest) ∧ Beside b base r' s' ∧ r'.outer = [] := by
  generalize hnil : ([] : List Token) = stop at hs
  induction hs generalizing r with
  | here s => exact absurd hz h.stacked.ne_nil
  | @step s s₁ z t ts ts₁ stop hstep hs ih =>
    subst hnil
    by_cases hclose : t = .char ')' ∧ r.outer = []
    · obtain ⟨rfl, hr⟩ := hclose
      exact ⟨r, s, ts, hts, .here _ _, .here _ _, h, hr⟩
    obtain ⟨r₁, hr₁, h₁⟩ | ⟨hloose, -⟩ := h.step? (fun e => hrefs e _ (List.suffix_refl _))
      (fun ht hr => hclose ⟨ht, hr⟩) _ _ hstep
    · obtain hbefore | ⟨fs, rfl⟩ := hts.step hstep
      · obtain ⟨passed, -, rfl⟩ := step?_suffix hstep
        obtain ⟨r', s', rest, hrest, hr', hs', h', hout⟩ := ih h₁ hz hbefore
          (fun e us hus => hrefs e us (hus.trans (List.suffix_append (t :: passed) ts₁))) rfl
        exact ⟨r', s', rest, hrest, .step hr₁ hr', .step hstep hs', h', hout⟩
      · -- Fragments are read to the end, and the group is still open.
        have hend := Fragment.reads_all fs s₁ []
        rw [List.append_nil] at hend
        cases hend.past hs
        exact absurd hz h₁.stacked.ne_nil
    · exact absurd hloose hb

def Token.spelling : Token → List Char
  | char c => [c]
  | escaped c => ['\\', c]
  | lone => ['\\']

theorem Token.flatMap_spelling (cs : List Char) : (ofChars cs).flatMap spelling = cs := by
  induction cs using charsInduction with
  | nil => rfl
  | lone => rfl
  | escape c cs ih => simp [ofChars, spelling, ih]
  | ordinary c cs hc ih => simp [ofChars_cons hc, spelling, ih]

/-- Read alone, the text has a parenthesis that closes nothing. -/
def ClosesOutside (g : Glossary) (e : List Char) : Prop :=
  ∃ r rest, Reads (start g) (ofChars e) r (.char ')' :: rest) ∧ r.outer = []

section Closing

variable {e cs : List Char}

theorem Beside.exists_closing (hb : b ≠ .loose) (h : Beside b base (start g) s)
    (hs : Reads s (ofChars (e ++ ')' :: cs)) z []) (hz : z.outer = [])
    (hrefs : b = .apart → ∀ us, us <:+ ofChars (e ++ ')' :: cs) → ¬IsReference us) :
    ∃ as bs r' s', e ++ ')' :: cs = as ++ ')' :: bs ∧
      (∀ ds, Reads (start g) (ofChars (as ++ ')' :: ds)) r' (.char ')' :: ofChars ds)) ∧
      Reads (start g) (ofChars as) r' [] ∧ Reads s' (.char ')' :: ofChars bs) z [] ∧
      Beside b base r' s' ∧ r'.outer = [] ∧
      ((∃ fs : List Fragment, ofChars cs = fs.flatMap Fragment.tokens) →
        as.length ≤ e.length) := by
  obtain ⟨r', s', rest, hrest, hr', hs', hbeside, hout⟩ :=
    h.exists_close hb hs hz (beforeFragments e cs) hrefs
  obtain ⟨passed, -, hpassed⟩ := hr'.suffix
  obtain ⟨as, bs, heq, has, rfl, -⟩ := exists_of_ofChars_eq_append hpassed
  have hedge : ∀ {more}, Edge more → Reads (start g) (passed ++ more) r' more := fun hmore =>
    Reads.edge hmore (hpassed ▸ hr')
  refine ⟨as, bs, r', s', heq, fun ds => ?_, ?_, hs'.past hs, hbeside, hout, fun hfs => ?_⟩
  · rw [has, ofChars_cons (by decide)]
    exact hedge (.close _)
  · rw [has.eq]
    simpa using hedge .stop
  · obtain ⟨before, own, -, hown⟩ := hrest hfs
    rw [hown] at hpassed
    have hspell := congrArg (fun us => (us.flatMap spelling).length) hpassed
    have hpos : 0 < own.spelling.length := by cases own <;> simp [spelling]
    rw [Token.flatMap_spelling, List.flatMap_append, List.flatMap_append, List.flatMap_cons,
      Token.flatMap_spelling, ← has.eq, Token.flatMap_spelling] at hspell
    simp only [List.length_append, List.length_cons] at hspell
    omega

theorem Beside.awaited_of_fragments (h : Beside .same base r s) (hr : r.outer = [])
    {fs : List Fragment} (hs : Reads s (.char ')' :: fs.flatMap Fragment.tokens) z []) :
    r.awaited = z.awaited ∧ r.groups = z.groups := by
  obtain ⟨hbare, houter, -⟩ := h.bottom hr
  obtain ⟨hgroups, -, -, -, hawaited⟩ := h.known rfl
  have hclose : s.step? (.char ')') (fs.flatMap Fragment.tokens) =
      .ok (s.closeWith base.level [] s.level.body, fs.flatMap Fragment.tokens) :=
    (step?_close _ _).trans (close?_bare hbare houter _)
  have hend := Fragment.reads_all fs (s.closeWith base.level [] s.level.body) []
  rw [List.append_nil] at hend
  cases (Reads.step hclose hend).past hs
  exact ⟨hawaited, hgroups⟩

theorem finish_ok {p : Pattern} (h : r.finish = .ok p) :
    r.outer = [] ∧ r.awaited.all (· < r.groups) = true ∧ r.unfit = false := by
  unfold finish at h
  split at h
  · cases h
  next houter =>
  split at h
  · cases h
  split at h
  · next hall =>
    simp only [Bool.and_eq_true, Bool.not_eq_true'] at hall
    exact ⟨by simpa using houter, hall.1.1, hall.1.2⟩
  · cases h

theorem append_cons_cases {α : Type} {as bs cs ds : List α} {a : α}
    (h : as ++ a :: bs = cs ++ a :: ds) :
    as = cs ∧ bs = ds ∨ (∃ us, as = cs ++ a :: us) ∨ ∃ us, cs = as ++ a :: us := by
  obtain ⟨us, rfl, hus⟩ | ⟨us, rfl, hus⟩ := List.append_eq_append_iff.1 h
  · cases us with
    | nil => exact .inl ⟨(List.append_nil _).symm, (List.cons.inj hus).2⟩
    | cons u us => exact .inr (.inr ⟨us, by rw [(List.cons.inj hus).1]⟩)
  · cases us with
    | nil => exact .inl ⟨List.append_nil _, (List.cons.inj hus).2.symm⟩
    | cons u us => exact .inr (.inl ⟨us, by rw [(List.cons.inj hus).1]⟩)

/-- A text that can be read in a group of its own can be read alone, unless it closes the group, or
something that follows does. -/
theorem Beside.exists_ofText {p : Pattern} {e : String} {cs : List Char} (hb : b ≠ .loose)
    (h : Beside b base (start g) s) (hs : Reads s (ofChars (e.toList ++ ')' :: cs)) z [])
    (hz : z.finish = .ok p)
    (hrefs : b = .apart → ∀ us, us <:+ ofChars (e.toList ++ ')' :: cs) → ¬IsReference us)
    (hsame : b = .same → ∃ fs : List Fragment, ofChars cs = fs.flatMap Fragment.tokens) :
    ClosesOutside g e.toList ∨ (∃ q, ofText g e = .ok q) ∨
      (¬∃ fs : List Fragment, ofChars cs = fs.flatMap Fragment.tokens) ∧
        ∃ d q, ofText g (e ++ d) = .ok q := by
  obtain ⟨houter, hall, hunfit⟩ := finish_ok hz
  obtain ⟨as, bs, r', s', heq, hedge, hreads, hend, hbeside, hout, hlen⟩ :=
    h.exists_closing hb hs houter hrefs
  have hfit : s'.unfit = false := by
    cases hu : s'.unfit with
    | false => rfl
    | true => rw [hend.unfit hu] at hunfit; cases hunfit
  obtain ⟨rfl, rfl⟩ | ⟨ds, he⟩ | ⟨ds, rfl⟩ := append_cons_cases heq
  · have hawaited : b = .same → r'.awaited.all (· < r'.groups) = true := by
      rintro rfl
      obtain ⟨fs, hfs⟩ := hsame rfl
      rw [hfs] at hend
      obtain ⟨hawaited, hgroups⟩ := hbeside.awaited_of_fragments hout hend
      rwa [hawaited, hgroups]
    obtain ⟨q, hq⟩ := hbeside.exists_finish hb hout hfit hawaited
    exact .inr (.inl ⟨q, ofText_ok_iff.2 ⟨r', hreads, hq⟩⟩)
  · exact .inl ⟨r', ofChars ds, he ▸ hedge ds, hout⟩
  · have hbeyond : ¬∃ fs : List Fragment, ofChars cs = fs.flatMap Fragment.tokens := by
      intro hfs
      have := hlen hfs
      simp only [List.length_append, List.length_cons] at this
      omega
    obtain ⟨q, hq⟩ := hbeside.exists_finish hb hout hfit fun e => absurd (hsame e) hbeyond
    refine .inr (.inr ⟨hbeyond, String.ofList (')' :: ds), q, ofText_ok_iff.2 ⟨r', ?_, hq⟩⟩)
    rwa [String.toList_append, String.toList_ofList]

end Closing

end Allowlist.Pattern
