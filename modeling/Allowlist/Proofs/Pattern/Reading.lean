import Allowlist.Proofs.Pattern.Edge

namespace Allowlist.Pattern

open Token

namespace Reader

/-- Reading goes from `r` over a piece on to `r'`, wherever the text is cut after the piece. What
was found to be wrong stays wrong. -/
structure Moves (f : List Token → Step) (r : Reader) (ts : List Token) (r' : Reader)
    (rest : List Token) : Prop where
  passes : Passes f ts r' rest
  unfit : r.unfit = true → r'.unfit = true

variable {r r' : Reader} {c : Char} {ts rest : List Token}

theorem Moves.imp {f f' : List Token → Step} (h : Moves f r ts r' rest)
    (hf : ∀ {us rest'}, f us = .ok (r', rest') → f' us = .ok (r', rest')) :
    Moves f' r ts r' rest :=
  ⟨h.passes.imp hf, h.unfit⟩

theorem Moves.after {f f' : List Token → Step} (h : Moves f r ts r' rest) (cs : List Char)
    (hcs : ')' ∉ cs)
    (hf : ∀ {us rest'}, f us = .ok (r', rest') → f' (chars cs ++ us) = .ok (r', rest')) :
    Moves f' r (chars cs ++ ts) r' rest :=
  ⟨h.passes.after cs hcs hf, h.unfit⟩

theorem pushBackref?_ok {n : Nat} : r.pushBackref? n ts = .ok (r', rest) ↔
    ((r.widths.lookup n).isSome && r.isInSight n) = true ∧
      r' = r.push .plain (.backref r.mode n) ∧ rest = ts := by
  unfold pushBackref?
  split
  · next h => simp [h, @eq_comm _ r', @eq_comm _ rest]
  · next h => simp [h]

theorem pushBackref?_rest {n : Nat} (h : r.pushBackref? n ts = .ok (r', rest)) :
    rest = ts ∧ (∀ us, r.pushBackref? n us = .ok (r', us)) ∧
      (r.unfit = true → r'.unfit = true) := by
  obtain ⟨hsight, rfl, rfl⟩ := pushBackref?_ok.1 h
  exact ⟨rfl, fun us => pushBackref?_ok.2 ⟨hsight, rfl, rfl⟩, id⟩

theorem numbered?_two {d : Char} {us : List Token} (hzero : c ≠ '0')
    (hd : takeChars Char.isDigit 1 ts = ([d], us))
    (ho : ∀ e rest, takeChars isOctal 1 us = ([e], rest) → ¬(isOctal c && isOctal d) = true) :
    r.numbered? c ts = r.pushBackref? (numberIn 10 [c, d]) us := by
  simp only [numbered?, if_neg hzero, hd]
  split
  · next e rest he => rw [if_neg (ho e rest he)]
  · rfl

theorem numbered?_one (hzero : c ≠ '0')
    (hd : ∀ d rest, takeChars Char.isDigit 1 ts ≠ ([d], rest)) :
    r.numbered? c ts = r.pushBackref? (numberIn 10 [c]) ts := by
  rw [numbered?, if_neg hzero]
  split
  · next d rest h => exact absurd h (hd d rest)
  · rfl

theorem numbered?_moves (h : r.numbered? c ts = .ok (r', rest)) :
    Moves (r.numbered? c) r ts r' rest := by
  by_cases hzero : c = '0'
  · rw [numbered?, if_pos hzero] at h
    cases htake : takeChars isOctal 2 ts with
    | mk cs us =>
    rw [htake] at h
    cases h
    obtain ⟨rfl, -⟩ := eq_of_takeChars htake
    refine ⟨.plain _ (not_mem_of_takeChars rfl htake) fun hus => ?_, id⟩
    simp only [numbered?, if_pos hzero, takeChars_cuts rfl htake hus]
  by_cases hone : ∀ d us, takeChars Char.isDigit 1 ts ≠ ([d], us)
  · rw [numbered?_one hzero hone] at h
    obtain ⟨rfl, hback, hunfit⟩ := pushBackref?_rest h
    refine ⟨.here fun {us} hus => ?_, hunfit⟩
    rw [numbered?_one hzero, hback]
    intro d vs hd
    obtain ⟨vs, hd'⟩ := exists_takeChars [d] rfl hd hus
    exact hone d vs hd'
  push Not at hone
  obtain ⟨d, us, hd⟩ := hone
  obtain ⟨rfl, -⟩ := eq_of_takeChars hd
  by_cases ho : ∀ e vs, takeChars isOctal 1 us = ([e], vs) → ¬(isOctal c && isOctal d) = true
  · rw [numbered?_two hzero hd ho] at h
    obtain ⟨rfl, hback, hunfit⟩ := pushBackref?_rest h
    refine ⟨.plain [d] (not_mem_of_takeChars rfl hd) fun {vs} hvs => ?_, hunfit⟩
    rw [numbered?_two hzero (takeChars_cuts rfl hd hvs), hback]
    intro e ws he
    obtain ⟨ws, he'⟩ := exists_takeChars [e] rfl he hvs
    exact ho e ws he'
  · -- Three octal digits are a character.
    push Not at ho
    obtain ⟨e, vs, he, hoctal⟩ := ho
    simp only [numbered?, if_neg hzero, hd, he, hoctal, if_true] at h
    split at h
    · next hn =>
      cases h
      obtain ⟨rfl, -⟩ := eq_of_takeChars he
      refine ⟨.plain [d, e] ?_ fun hws => ?_, id⟩
      · exact fun hmem => (List.mem_cons.1 hmem).elim
          (fun h => not_mem_of_takeChars rfl hd (h ▸ List.mem_singleton_self _))
          (not_mem_of_takeChars rfl he)
      · have he' := takeChars_cuts rfl he hws
        have hd' := takeChars_cuts rfl hd (hws.append [.char e])
        simp only [List.map_cons, List.map_nil, List.cons_append, List.nil_append] at he' hd' ⊢
        simp only [numbered?, if_neg hzero, hd', he', hoctal, if_true, if_pos hn]
    · cases h

theorem escape?_moves (h : r.escape? c ts = .ok (r', rest)) :
    Moves (r.escape? c) r ts r' rest := by
  unfold escape? at h
  split at h
  · next ha =>
    cases h
    exact ⟨.here fun _ => by simp only [escape?, ha], id⟩
  · next ha hk =>
    cases h
    exact ⟨.here fun _ => by simp only [escape?, ha, hk], id⟩
  · next ha hk =>
    by_cases hd : c.isDigit = true
    · rw [if_pos hd] at h
      refine (numbered?_moves h).imp fun h => ?_
      simp only [escape?, ha, hk, if_pos hd, h]
    · rw [if_neg hd] at h
      obtain ⟨⟨n, us⟩, hcode, heq⟩ := exceptMap_ok.1 h
      obtain ⟨rfl, rfl⟩ := Prod.mk.inj heq
      refine ⟨(code?_passes hcode).imp fun h => ?_, id⟩
      simp only [escape?, ha, hk, if_neg hd, h, Except.map]

theorem bounds?_eq_some_iff {lo hi : List Char} : bounds? ts = some (lo, hi, rest) ↔
    (∀ d ∈ lo, d.isDigit = true) ∧ (∀ d ∈ hi, d.isDigit = true) ∧
      (lo ≠ [] ∧ hi = lo ∧ ts = chars (lo ++ ['}']) ++ rest ∨
        ts = chars (lo ++ ',' :: hi ++ ['}']) ++ rest) := by
  constructor
  · intro h
    cases hlo : takeChars Char.isDigit ts.length ts with
    | mk ds us =>
    obtain ⟨rfl, hds, -⟩ := eq_of_takeChars hlo
    simp only [bounds?, hlo] at h
    split at h
    · cases h
    · next hne =>
      cases h
      refine ⟨hds, hds, .inl ⟨?_, rfl, by simp⟩⟩
      rintro rfl
      exact hne rfl
    · next us hcomma =>
      split at h
      · next es vs hhi =>
        cases h
        obtain ⟨rfl, hes, -⟩ := eq_of_takeChars hhi
        exact ⟨hds, hes, .inr (by simp)⟩
      · cases h
    · cases h
  · rintro ⟨hlo, hhi, ⟨hne, rfl, rfl⟩ | rfl⟩
    · obtain ⟨d, ds, rfl⟩ := List.exists_cons_of_ne_nil hne
      have htake := takeChars_stop hlo (show Char.isDigit '}' = false from rfl) rest
      simp only [List.map_append, List.append_assoc, List.map_cons, List.map_nil,
        List.cons_append, List.nil_append] at htake ⊢
      simp only [bounds?, htake]
    · have hlast := takeChars_stop hhi (show Char.isDigit '}' = false from rfl) rest
      have hfirst := takeChars_stop hlo (show Char.isDigit ',' = false from rfl)
        (chars hi ++ .char '}' :: rest)
      simp only [List.map_append, List.append_assoc, List.map_cons, List.map_nil,
        List.cons_append, List.nil_append] at hlast hfirst ⊢
      simp only [bounds?, hfirst, hlast]

theorem exists_bounds {lo hi : List Char} (h : bounds? ts = some (lo, hi, rest)) :
    ∃ cs, ')' ∉ cs ∧ ts = chars cs ++ rest ∧
      ∀ us, bounds? (chars cs ++ us) = some (lo, hi, us) := by
  obtain ⟨hlo, hhi, hts⟩ := bounds?_eq_some_iff.1 h
  have digits : ∀ {ds : List Char}, (∀ d ∈ ds, d.isDigit = true) → ')' ∉ ds :=
    fun hds hmem => absurd (hds _ hmem) (by decide)
  obtain ⟨hne, rfl, rfl⟩ | rfl := hts
  · exact ⟨hi ++ ['}'], by simp [digits hlo], rfl, fun us =>
      bounds?_eq_some_iff.2 ⟨hlo, hhi, .inl ⟨hne, rfl, rfl⟩⟩⟩
  · exact ⟨lo ++ ',' :: hi ++ ['}'], by simp [digits hlo, digits hhi], rfl, fun us =>
      bounds?_eq_some_iff.2 ⟨hlo, hhi, .inr rfl⟩⟩

theorem bounds?_cuts {us : List Token} (h : bounds? ts = none) (hus : Cuts ts us) :
    bounds? us = none := by
  cases hb : bounds? us with
  | none => rfl
  | some b =>
    obtain ⟨lo, hi, rest⟩ := b
    obtain ⟨cs, hcs, rfl, hagain⟩ := exists_bounds hb
    obtain ⟨vs, rfl, -⟩ := hus.of_chars hcs
    rw [hagain vs] at h
    cases h

theorem bound?_ok {ds : List Char} {n : Option Nat} (h : bound? ts ds = .ok n)
    (us : List Token) : bound? us ds = .ok n := by
  unfold bound? at h
  split at h
  · next he =>
    cases h
    rw [bound?, if_pos he]
  next he =>
  split at h
  · cases h
  next hlen =>
  split at h
  · cases h
  · next hn =>
    cases h
    rw [bound?, if_neg he, if_neg hlen, if_neg hn]

theorem greed_eq {g : Greed} (h : greed ts = (g, rest)) :
    ∃ cs, ')' ∉ cs ∧ ts = chars cs ++ rest ∧
      ∀ {us}, Cuts rest us → greed (chars cs ++ us) = (g, us) := by
  unfold greed at h
  split at h
  · cases h
    exact ⟨['?'], by decide, rfl, fun _ => rfl⟩
  · cases h
    exact ⟨['+'], by decide, rfl, fun _ => rfl⟩
  · next hlazy hfirm =>
    cases h
    refine ⟨[], by simp, rfl, fun {us} hus => ?_⟩
    change greed us = _
    unfold greed
    split
    · obtain ⟨vs, rfl, -⟩ := hus.of_char (by decide)
      exact absurd rfl (hlazy vs)
    · obtain ⟨vs, rfl, -⟩ := hus.of_char (by decide)
      exact absurd rfl (hfirm vs)
    · rfl

theorem repeat?_moves {least : Nat} {most : Option Nat}
    (h : r.repeat? least most ts = .ok (r', rest)) :
    Moves (r.repeat? least most) r ts r' rest := by
  unfold repeat? at h
  split at h
  · next p items hitems =>
    cases hg : greed ts with
    | mk g us =>
    rw [hg] at h
    cases h
    obtain ⟨cs, hcs, rfl, hagain⟩ := greed_eq hg
    exact ⟨.plain _ hcs fun hus => by simp only [repeat?, hitems, hagain hus], id⟩
  · cases h

theorem brace?_moves (h : r.brace? ts = .ok (r', rest)) : Moves r.brace? r ts r' rest := by
  unfold brace? at h
  split at h
  · next hb =>
    cases h
    exact ⟨.here fun hus => by simp only [brace?, bounds?_cuts hb hus], id⟩
  · next lo hi us hb =>
    obtain ⟨least, hleast, h⟩ := exceptBind_ok.1 h
    obtain ⟨most, hmost, h⟩ := exceptBind_ok.1 h
    split at h
    · next hle =>
      obtain ⟨cs, hcs, rfl, hagain⟩ := exists_bounds hb
      refine (repeat?_moves h).after cs hcs fun h => ?_
      simp only [brace?, hagain, bound?_ok hleast, bound?_ok hmost, exceptOk_bind, if_pos hle, h]
    · cases h

theorem not_mem_of_isName {name : List Char} (h : Text.isName name = true)
    (hs : Text.nameStart.has c.toNat = false) (hr : Text.nameRest.has c.toNat = false) :
    c ∉ name := by
  intro hc
  cases name with
  | nil => cases hc
  | cons d ds =>
    simp only [Text.isName, Bool.and_eq_true, List.all_eq_true] at h
    cases hc with
    | head => simp [hs] at h
    | tail _ hc => simp [h.2 c hc] at hr

theorem openNamed?_moves (h : r.openNamed? ts = .ok (r', rest)) :
    Moves r.openNamed? r ts r' rest := by
  unfold openNamed? at h
  split at h
  · next name us hsplit =>
    dsimp only at h
    split at h
    · next hname =>
      cases h
      obtain ⟨before, rfl, -, hchars, hagain⟩ := eq_of_splitAt? hsplit
      have hplain {d : Char} := @not_mem_of_isName d name (by simp_all)
      obtain rfl := hchars (hplain (by decide +kernel) (by decide +kernel))
      have hclose : ')' ∉ name := hplain (by decide +kernel) (by decide +kernel)
      refine ⟨.upTo hclose (by decide) fun _ => ?_, id⟩
      simp only [openNamed?, hagain, if_pos hname]
      rfl
    · cases h
  · cases h

theorem namedBackref?_moves (h : r.namedBackref? ts = .ok (r', rest)) :
    Moves r.namedBackref? r ts r' rest := by
  unfold namedBackref? at h
  split at h
  · next name us hsplit =>
    obtain ⟨before, rfl, hlone, -, hagain⟩ := eq_of_splitAt? hsplit
    split at h
    · next n hn =>
      obtain ⟨rfl, hback, hunfit⟩ := pushBackref?_rest h
      exact ⟨.closed _ hlone (by decide) fun _ => by simp only [namedBackref?, hagain, hn, hback],
        hunfit⟩
    · cases h
  · cases h

theorem openCondition?_moves (h : r.openCondition? ts = .ok (r', rest)) :
    Moves r.openCondition? r ts r' rest := by
  unfold openCondition? at h
  split at h
  · next name us hsplit =>
    obtain ⟨before, rfl, hlone, -, hagain⟩ := eq_of_splitAt? hsplit
    split at h
    · next n awaited hn =>
      split at h
      · next hsight =>
        cases h
        exact ⟨.closed _ hlone (by decide) fun _ => by
          simp only [openCondition?, hagain, hn, if_pos hsight], id⟩
      · cases h
    · cases h
  · cases h

theorem globalFlags?_rest {on : List Char} (h : r.globalFlags? on ts = .ok (r', rest)) :
    rest = ts ∧ (∀ us, r.globalFlags? on us = .ok (r', us)) ∧
      (r.unfit = true → r'.unfit = true) := by
  unfold globalFlags? at h
  split at h
  · next hfresh =>
    cases h
    exact ⟨rfl, fun us => by rw [globalFlags?, if_pos hfresh], id⟩
  · cases h

theorem openFlags?_rest {on off : List Char} (h : r.openFlags? on off ts = .ok (r', rest)) :
    rest = ts ∧ (∀ us, r.openFlags? on off us = .ok (r', us)) ∧
      (r.unfit = true → r'.unfit = true) := by
  unfold openFlags? at h
  split at h
  · cases h
  · next hflags =>
    cases h
    exact ⟨rfl, fun us => by rw [openFlags?, if_neg hflags], id⟩

theorem flags?_moves (h : r.flags? ts = .ok (r', rest)) : Moves r.flags? r ts r' rest := by
  unfold flags? at h
  cases hon : takeChars isFlag ts.length ts with
  | mk on us =>
  simp only [hon] at h
  obtain ⟨rfl, hflags, -⟩ := eq_of_takeChars hon
  have hplain := not_mem_of_takeChars rfl hon
  split at h
  · cases h
  next hboth =>
  split at h
  · obtain ⟨rfl, hglobal, hunfit⟩ := globalFlags?_rest h
    refine ⟨.closed _ (by simp) (by decide) fun {vs} _ => ?_, hunfit⟩
    rw [flags?, takeChars_stop hflags (by decide) vs]
    simp only [if_neg hboth, hglobal]
  · obtain ⟨rfl, hopen, hunfit⟩ := openFlags?_rest h
    refine ⟨.upTo hplain (by decide) fun {vs} _ => ?_, hunfit⟩
    rw [flags?, takeChars_stop hflags (by decide) vs]
    simp only [if_neg hboth, hopen]
  · next us =>
    split at h
    · next f fs vs hoff =>
      obtain ⟨rfl, hopen, hunfit⟩ := openFlags?_rest h
      obtain ⟨rfl, hflags', -⟩ := eq_of_takeChars hoff
      have hplain' := not_mem_of_takeChars rfl hoff
      have hpasses :
          Passes r.flags? (chars (on ++ '-' :: f :: fs) ++ .char ':' :: rest) r' rest := by
        refine .upTo (by simpa [hplain] using hplain') (by decide) fun {vs} _ => ?_
        have first := takeChars_stop hflags (show isFlag '-' = false from rfl)
          (chars (f :: fs) ++ .char ':' :: vs)
        have last := takeChars_stop hflags' (show isFlag ':' = false from rfl) vs
        simp only [List.map_append, List.map_cons, List.append_assoc, List.cons_append]
          at first last ⊢
        rw [flags?, first]
        simp only [if_neg hboth, last, hopen]
      exact ⟨by simpa using hpasses, hunfit⟩
    · cases h
  · cases h

theorem extension?_of_flags? (h : r.flags? ts = .ok (r', rest)) :
    r.extension? ts = .ok (r', rest) := by
  obtain ⟨c, us, rfl, hc⟩ : ∃ c us, ts = .char c :: us ∧ (isFlag c || c == '-') = true := by
    unfold flags? at h
    cases hon : takeChars isFlag ts.length ts with
    | mk on us =>
    simp only [hon] at h
    obtain ⟨rfl, hflags, -⟩ := eq_of_takeChars hon
    cases on with
    | cons c on => exact ⟨c, _, rfl, by simp [hflags c List.mem_cons_self]⟩
    | nil =>
      split at h
      · cases h
      split at h
      · next heq => cases heq
      · next heq => cases heq
      · exact ⟨'-', _, rfl, rfl⟩
      · cases h
  unfold extension?
  split
  case h_11 => exact h
  all_goals
    next heq =>
    cases heq
    cases hc

theorem extension?_moves (h : r.extension? ts = .ok (r', rest)) :
    Moves r.extension? r ts r' rest := by
  unfold extension? at h
  split at h
  · cases h
    exact ⟨.plain [':'] (by decide) fun _ => rfl, id⟩
  · exact (openNamed?_moves h).after ['P', '<'] (by decide) id
  · exact (namedBackref?_moves h).after ['P', '='] (by decide) id
  · next us =>
    split at h
    · next hsplit =>
      cases h
      obtain ⟨before, rfl, hlone, -, hagain⟩ := eq_of_splitAt? hsplit
      refine ⟨.closed (.char '#' :: before) (by simpa using hlone) (by decide)
        fun _ => ?_, id⟩
      simp only [List.cons_append, extension?, hagain]
    · cases h
  · cases h
    exact ⟨.plain ['='] (by decide) fun _ => rfl, id⟩
  · cases h
    exact ⟨.plain ['!'] (by decide) fun _ => rfl, id⟩
  · cases h
    exact ⟨.plain ['<', '='] (by decide) fun _ => rfl, id⟩
  · cases h
    exact ⟨.plain ['<', '!'] (by decide) fun _ => rfl, id⟩
  · exact (openCondition?_moves h).after ['('] (by decide) id
  · cases h
    exact ⟨.plain ['>'] (by decide) fun _ => rfl, id⟩
  · exact (flags?_moves h).imp extension?_of_flags?

theorem open?_moves (h : r.open? ts = .ok (r', rest)) : Moves r.open? r ts r' rest := by
  unfold open? at h
  split at h
  · exact (extension?_moves h).after ['?'] (by decide) id
  · next hne =>
    cases h
    refine ⟨.here fun {us} hus => ?_, id⟩
    unfold open?
    split
    · obtain ⟨vs, rfl, -⟩ := hus.of_char (by decide)
      exact absurd rfl (hne vs)
    · rfl

theorem bar?_rest (h : r.bar? ts = .ok (r', rest)) :
    rest = ts ∧ (∀ us, r.bar? us = .ok (r', us)) ∧ (r.unfit = true → r'.unfit = true) := by
  unfold bar? at h
  dsimp only at h
  split at h
  · cases h
  · next hcond =>
    cases h
    refine ⟨rfl, fun us => ?_, id⟩
    unfold bar?
    dsimp only
    split
    · next ho ha => exact absurd ha (hcond _ _ _ ho)
    · rfl

theorem close?_rest (h : r.close? ts = .ok (r', rest)) :
    rest = ts ∧ (∀ us, r.close? us = .ok (r', us)) ∧ (r.unfit = true → r'.unfit = true) := by
  unfold close? at h
  split at h
  · cases h
  next l ls houter =>
  dsimp only at h
  split at h
  · cases h
  case h_6 negated outermost ho =>
    cases h
    exact ⟨rfl, fun us => by simp only [close?, houter, ho], fun hu => by simp [hu]⟩
  all_goals
    next ho =>
    cases h
    exact ⟨rfl, fun us => by simp only [close?, houter, ho], id⟩

theorem skipLine_cases (ts : List Token) :
    (∃ before, .lone ∉ before ∧ ts = before ++ .char '\n' :: skipLine ts ∧
      ∀ us, skipLine (before ++ .char '\n' :: us) = us) ∨
    ∃ before, .lone ∉ before ∧ ts = before ++ skipLine ts ∧
      ∀ u ∈ (skipLine ts).head?, u = .lone := by
  induction ts with
  | nil => exact .inr ⟨[], by simp, rfl, by simp [skipLine]⟩
  | cons t ts ih =>
    rw [skipLine]
    by_cases hend : t = .char '\n'
    · rw [if_pos hend, hend]
      exact .inl ⟨[], by simp, rfl, fun us => by simp [skipLine]⟩
    rw [if_neg hend]
    by_cases hlone : t = .lone
    · rw [if_pos hlone]
      exact .inr ⟨[], by simp, rfl, by simpa using hlone⟩
    rw [if_neg hlone]
    obtain ⟨before, hbefore, hts, hagain⟩ | ⟨before, hbefore, hts, hhead⟩ := ih
    · refine .inl ⟨t :: before, by simpa [Ne.symm hlone] using hbefore, congrArg (t :: ·) hts, ?_⟩
      intro us
      rw [List.cons_append, skipLine, if_neg hend, if_neg hlone, hagain]
    · exact .inr ⟨t :: before, by simpa [Ne.symm hlone] using hbefore,
        congrArg (t :: ·) hts, hhead⟩

/-- What is left behind a comment that the text ends with. -/
structure RunsOut (r : Reader) (ts : List Token) (r' : Reader) (rest : List Token) : Prop where
  verbose : r.mode.verbose = true
  reader_eq : r' = r
  suffix : ∃ before, .lone ∉ before ∧ ts = before ++ rest
  beyond : ∀ t ∈ rest.head?, t = .lone

theorem char?_layout (h : (r.mode.verbose && isLayout c) = true) (ts : List Token) :
    r.char? c ts = .ok (r, ts) := by
  unfold char?
  rw [if_pos h]

theorem char?_comment (hlayout : ¬(r.mode.verbose && isLayout c) = true)
    (h : (r.mode.verbose && c = '#') = true) (ts : List Token) :
    r.char? c ts = .ok (r, skipLine ts) := by
  unfold char?
  rw [if_neg hlayout, if_pos h]

theorem comment_moves (hlayout : ¬(r.mode.verbose && isLayout c) = true)
    (h : (r.mode.verbose && c = '#') = true) :
    Moves (r.char? c) r ts r (skipLine ts) ∨ RunsOut r ts r (skipLine ts) := by
  obtain ⟨before, hbefore, hts, hagain⟩ | ⟨before, hbefore, hts, hhead⟩ := skipLine_cases ts
  · have hpasses : Passes (r.char? c) (before ++ .char '\n' :: skipLine ts) r (skipLine ts) :=
      .closed _ hbefore (by decide) fun _ => by rw [char?_comment hlayout h, hagain]
    rw [← hts] at hpasses
    exact .inl ⟨hpasses, id⟩
  · rw [Bool.and_eq_true] at h
    exact .inr ⟨h.1, rfl, ⟨before, hbefore, hts⟩, hhead⟩

theorem mark_moves (hlayout : ¬(r.mode.verbose && isLayout c) = true)
    (hcomment : ¬(r.mode.verbose && c = '#') = true) (h : r.char? c ts = .ok (r', rest)) :
    Moves (r.char? c) r ts r' rest := by
  unfold char? at h
  rw [if_neg hlayout, if_neg hcomment] at h
  split at h
  · obtain ⟨⟨s, us⟩, hset, heq⟩ := exceptMap_ok.1 h
    obtain ⟨rfl, rfl⟩ := Prod.mk.inj heq
    refine ⟨(charSet?_passes hset).imp fun h => ?_, id⟩
    rw [char?, if_neg hlayout, if_neg hcomment, h]
    rfl
  · refine (repeat?_moves h).imp fun h => ?_
    rwa [char?, if_neg hlayout, if_neg hcomment]
  · refine (repeat?_moves h).imp fun h => ?_
    rwa [char?, if_neg hlayout, if_neg hcomment]
  · refine (repeat?_moves h).imp fun h => ?_
    rwa [char?, if_neg hlayout, if_neg hcomment]
  · refine (brace?_moves h).imp fun h => ?_
    rwa [char?, if_neg hlayout, if_neg hcomment]
  · cases h
    exact ⟨.here fun _ => by rw [char?, if_neg hlayout, if_neg hcomment], id⟩
  · refine (open?_moves h).imp fun h => ?_
    rwa [char?, if_neg hlayout, if_neg hcomment]
  · obtain ⟨rfl, hclose, hunfit⟩ := close?_rest h
    exact ⟨.here fun _ => by rw [char?, if_neg hlayout, if_neg hcomment, hclose], hunfit⟩
  · obtain ⟨rfl, hbar, hunfit⟩ := bar?_rest h
    exact ⟨.here fun _ => by rw [char?, if_neg hlayout, if_neg hcomment, hbar], hunfit⟩
  · cases h
    exact ⟨.here fun _ => by rw [char?, if_neg hlayout, if_neg hcomment], id⟩
  · cases h
    exact ⟨.here fun _ => by rw [char?, if_neg hlayout, if_neg hcomment], id⟩
  · cases h
    refine ⟨.here fun _ => ?_, id⟩
    rw [char?, if_neg hlayout, if_neg hcomment]
    all_goals assumption

theorem step?_moves {t : Token} (h : r.step? t ts = .ok (r', rest)) :
    Moves (r.step? t) r ts r' rest ∨ RunsOut r ts r' rest := by
  cases t with
  | char c =>
    by_cases hlayout : (r.mode.verbose && isLayout c) = true
    · obtain ⟨rfl, rfl⟩ := Prod.mk.inj (Except.ok.inj ((char?_layout hlayout ts).symm.trans h))
      exact .inl ⟨.here fun _ => char?_layout hlayout _, id⟩
    by_cases hcomment : (r.mode.verbose && c = '#') = true
    · obtain ⟨rfl, rfl⟩ :=
        Prod.mk.inj (Except.ok.inj ((char?_comment hlayout hcomment ts).symm.trans h))
      exact comment_moves hlayout hcomment
    exact .inl (mark_moves hlayout hcomment h)
  | escaped c => exact .inl (escape?_moves h)
  | lone => cases h

theorem step?_suffix {t : Token} (h : r.step? t ts = .ok (r', rest)) :
    ∃ passed, .lone ∉ passed ∧ ts = passed ++ rest := by
  obtain ⟨⟨passed, hts, hpiece, -⟩, -⟩ | hout := step?_moves h
  · exact ⟨passed, hpiece.lone_not_mem, hts⟩
  · exact hout.suffix

theorem step?_unfit {t : Token} (h : r.step? t ts = .ok (r', rest)) (hu : r.unfit = true) :
    r'.unfit = true := by
  obtain hmoves | hout := step?_moves h
  · exact hmoves.unfit hu
  · rwa [hout.reader_eq]

theorem ne_lone_of_step? {t : Token} (h : r.step? t ts = .ok (r', rest)) : t ≠ .lone := by
  rintro rfl
  cases h

/-- Reading goes from the tokens `ts` on to the tokens `ts'` and makes `r'` of the reader `r`. -/
inductive Reads : Reader → List Token → Reader → List Token → Prop
  | here (r : Reader) (ts : List Token) : Reads r ts r ts
  | step {r r₁ r' : Reader} {t : Token} {ts ts₁ ts' : List Token}
      (h : r.step? t ts = .ok (r₁, ts₁)) (hs : Reads r₁ ts₁ r' ts') : Reads r (t :: ts) r' ts'

namespace Reads

variable {r r₁ r₂ : Reader} {t : Token} {ts ts₁ ts₂ : List Token}

theorem one (h : r.step? t ts = .ok (r₁, ts₁)) : Reads r (t :: ts) r₁ ts₁ := step h (here _ _)

theorem trans (h : Reads r ts r₁ ts₁) (h' : Reads r₁ ts₁ r₂ ts₂) : Reads r ts r₂ ts₂ := by
  induction h with
  | here => exact h'
  | step h _ ih => exact step h (ih h')

theorem suffix (h : Reads r ts r₁ ts₁) : ∃ passed, .lone ∉ passed ∧ ts = passed ++ ts₁ := by
  induction h with
  | here => exact ⟨[], by simp, rfl⟩
  | @step _ _ _ t _ _ _ h _ ih =>
    obtain ⟨passed, hpassed, rfl⟩ := step?_suffix h
    obtain ⟨passed', hpassed', rfl⟩ := ih
    refine ⟨t :: passed ++ passed', ?_, by simp⟩
    simp [Ne.symm (ne_lone_of_step? h), hpassed, hpassed']

theorem unfit (h : Reads r ts r₁ ts₁) (hu : r.unfit = true) : r₁.unfit = true := by
  induction h with
  | here => exact hu
  | step h _ ih => exact ih (step?_unfit h hu)

theorem past (h : Reads r ts r₁ ts₁) (h' : Reads r ts r₂ []) : Reads r₁ ts₁ r₂ [] := by
  induction h with
  | here => exact h'
  | step h _ ih =>
    cases h' with
    | step h₂ hs =>
      rw [h] at h₂
      cases h₂
      exact ih hs

/-- Reading up to a parenthesis does not depend on what there is instead of it. -/
theorem edge {more us : List Token} (hmore : Edge more)
    (h : Reads r (ts ++ .char ')' :: us) r₁ (.char ')' :: us)) :
    Reads r (ts ++ more) r₁ more := by
  generalize hvs : ts ++ .char ')' :: us = vs at h
  generalize hend : .char ')' :: us = stop at h
  induction h generalizing ts with
  | here r =>
    obtain rfl : ts = [] := by simpa [← hend] using hvs
    exact .here r more
  | @step r r₁ r' t vs vs₁ stop h hs ih =>
    subst hend
    obtain ⟨passed, hpassed, rfl⟩ := hs.suffix
    obtain hmoves | hout := step?_moves h
    · obtain ⟨piece, rfl, -, hagain⟩ := hmoves.passes
      obtain rfl : ts = t :: (piece ++ passed) := by
        apply List.append_cancel_right
        rw [hvs, List.cons_append, List.append_assoc]
      have hcut := (show Cuts (.char ')' :: us) more from .edge hmore).append passed
      rw [List.cons_append, List.append_assoc]
      exact .step (hagain hcut) (ih rfl rfl)
    · -- a comment that runs to the end passes the parenthesis
      cases passed with
      | nil => exact absurd (hout.beyond _ rfl) (by simp)
      | cons u passed =>
        obtain rfl := hout.beyond u rfl
        exact absurd List.mem_cons_self hpassed

end Reads

theorem read_ok_iff {fuel : Nat} {r : Reader} {ts : List Token} {p : Pattern}
    (hf : ts.length ≤ fuel) :
    read fuel r ts = .ok p ↔ ∃ r', Reads r ts r' [] ∧ r'.finish = .ok p := by
  induction fuel generalizing r ts with
  | zero =>
    obtain rfl : ts = [] := List.eq_nil_of_length_eq_zero (Nat.le_zero.1 hf)
    refine ⟨fun h => ⟨r, .here _ _, by simpa [read] using h⟩, ?_⟩
    rintro ⟨r', hs, h⟩
    cases hs
    simpa [read] using h
  | succ fuel ih =>
    cases ts with
    | nil =>
      refine ⟨fun h => ⟨r, .here _ _, by simpa [read] using h⟩, ?_⟩
      rintro ⟨r', hs, h⟩
      cases hs
      simpa [read] using h
    | cons t ts =>
      have hfuel : ∀ {r₁ rest}, r.step? t ts = .ok (r₁, rest) → rest.length ≤ fuel := by
        intro r₁ rest h
        obtain ⟨passed, -, rfl⟩ := step?_suffix h
        simp only [List.length_cons, List.length_append] at hf
        omega
      simp only [read, exceptBind_ok, Prod.exists]
      constructor
      · rintro ⟨r₁, rest, h, hr⟩
        obtain ⟨r', hs, hp⟩ := (ih (hfuel h)).1 hr
        exact ⟨r', .step h hs, hp⟩
      · rintro ⟨r', hs, hp⟩
        cases hs with
        | step h hs => exact ⟨_, _, h, (ih (hfuel h)).2 ⟨r', hs, hp⟩⟩

end Reader

theorem ofText_ok_iff {g : Glossary} {s : String} {p : Pattern} : ofText g s = .ok p ↔
    ∃ r, Reader.Reads (.start g) (ofChars s.toList) r [] ∧ r.finish = .ok p :=
  Reader.read_ok_iff (Nat.le_refl _)

end Allowlist.Pattern
