import Allowlist.Proofs.Except
import Allowlist.Regexp

namespace Allowlist.Pattern

open Token

abbrev Token.chars (cs : List Char) : List Token := cs.map char

/-- Where a text may end: where nothing follows, or before the parenthesis that closes a group that
the text stands in. -/
inductive Edge : List Token → Prop
  | stop : Edge []
  | close (ts : List Token) : Edge (.char ')' :: ts)

/-- What is left of tokens if the text ends before its time, or goes on after its end. -/
inductive Cuts : List Token → List Token → Prop
  | edge {ts more : List Token} (h : Edge more) : Cuts ts more
  | cons (t : Token) {ts ts' : List Token} (h : Cuts ts ts') : Cuts (t :: ts) (t :: ts')

namespace Cuts

variable {ts ts' : List Token}

theorem append (h : Cuts ts ts') (passed : List Token) : Cuts (passed ++ ts) (passed ++ ts') := by
  induction passed with
  | nil => exact h
  | cons t passed ih => exact .cons t ih

theorem of_chars {cs : List Char} (h : Cuts ts (chars cs ++ ts')) (hcs : ')' ∉ cs) :
    ∃ us, ts = chars cs ++ us ∧ Cuts us ts' := by
  induction cs generalizing ts with
  | nil => exact ⟨ts, rfl, h⟩
  | cons c cs ih =>
    cases h with
    | edge h =>
      cases h
      exact absurd List.mem_cons_self hcs
    | cons _ h =>
      obtain ⟨us, rfl, hus⟩ := ih h fun hc => hcs (List.mem_cons_of_mem c hc)
      exact ⟨us, rfl, hus⟩

theorem of_char {c : Char} (h : Cuts ts (.char c :: ts')) (hc : c ≠ ')') :
    ∃ us, ts = .char c :: us ∧ Cuts us ts' :=
  (show Cuts ts (chars [c] ++ ts') from h).of_chars (by simpa using hc.symm)

end Cuts

/-- What is passed at once: characters other than the parenthesis, or anything up to a character
that closes something. -/
inductive Piece : List Token → Prop
  | plain {cs : List Char} (h : ')' ∉ cs) : Piece (chars cs)
  | closed {ts : List Token} {c : Char} (h : .lone ∉ ts) (hc : c ∈ [')', ']', '}', '\n']) :
    Piece (ts ++ [.char c])

theorem Piece.lone_not_mem {ts : List Token} (h : Piece ts) : .lone ∉ ts := by
  cases h <;> simp_all

/-- The reader `f` gives `x` for a piece at the front, wherever the text is cut after it. -/
def Passes {α : Type} (f : List Token → Except Error (α × List Token)) (ts : List Token) (x : α)
    (rest : List Token) : Prop :=
  ∃ passed, ts = passed ++ rest ∧ Piece passed ∧
    ∀ {rest'}, Cuts rest rest' → f (passed ++ rest') = .ok (x, rest')

namespace Passes

variable {α β : Type} {f : List Token → Except Error (α × List Token)}
  {f' : List Token → Except Error (β × List Token)} {ts rest : List Token} {x : α} {y : β}

theorem here (h : ∀ {us}, Cuts ts us → f us = .ok (x, us)) : Passes f ts x ts :=
  ⟨[], rfl, .plain (show ')' ∉ [] by simp), h⟩

theorem plain (cs : List Char) (hcs : ')' ∉ cs)
    (h : ∀ {us}, Cuts rest us → f (chars cs ++ us) = .ok (x, us)) :
    Passes f (chars cs ++ rest) x rest :=
  ⟨_, rfl, .plain hcs, h⟩

theorem closed (passed : List Token) {c : Char} (hlone : .lone ∉ passed)
    (hc : c ∈ [')', ']', '}', '\n'])
    (h : ∀ {us}, Cuts rest us → f (passed ++ .char c :: us) = .ok (x, us)) :
    Passes f (passed ++ .char c :: rest) x rest :=
  ⟨passed ++ [.char c], by simp, .closed hlone hc, fun hus => by simpa using h hus⟩

theorem upTo {cs : List Char} {c : Char} (hcs : ')' ∉ cs) (hc : c ≠ ')')
    (h : ∀ {us}, Cuts rest us → f (chars cs ++ .char c :: us) = .ok (x, us)) :
    Passes f (chars cs ++ .char c :: rest) x rest := by
  refine ⟨chars (cs ++ [c]), by simp, .plain (by simp [hcs, hc.symm]), fun hus => ?_⟩
  simpa using h hus

theorem imp (h : Passes f ts x rest)
    (hf : ∀ {us rest'}, f us = .ok (x, rest') → f' us = .ok (y, rest')) : Passes f' ts y rest := by
  obtain ⟨passed, hts, hpiece, hpass⟩ := h
  exact ⟨passed, hts, hpiece, fun hus => hf (hpass hus)⟩

theorem after (h : Passes f ts x rest) (cs : List Char) (hcs : ')' ∉ cs)
    (hf : ∀ {us rest'}, f us = .ok (x, rest') → f' (chars cs ++ us) = .ok (y, rest')) :
    Passes f' (chars cs ++ ts) y rest := by
  obtain ⟨passed, rfl, hpiece, hpass⟩ := h
  refine ⟨chars cs ++ passed, by simp, ?_, fun hus => ?_⟩
  · cases hpiece with
    | @plain ds hds =>
      rw [← List.map_append]
      exact .plain (by simp [hcs, hds])
    | @closed ts d hts hd =>
      rw [← List.append_assoc]
      exact .closed (by simpa using hts) hd
  · rw [List.append_assoc]
    exact hf (hpass hus)

theorem again (h : Passes f ts x rest) : ∃ passed, ts = passed ++ rest ∧ .lone ∉ passed ∧
    ∀ {rest'}, Cuts rest rest' → f (passed ++ rest') = .ok (x, rest') := by
  obtain ⟨passed, hts, hpiece, hpass⟩ := h
  exact ⟨passed, hts, hpiece.lone_not_mem, hpass⟩

theorem length_le (h : Passes f ts x rest) : rest.length ≤ ts.length := by
  obtain ⟨passed, rfl, -⟩ := h
  simp

end Passes

namespace Token

variable {p : Char → Bool} {n : Nat} {ts rest rest' : List Token} {cs : List Char}

theorem eq_of_takeChars (h : takeChars p n ts = (cs, rest)) :
    ts = chars cs ++ rest ∧ (∀ c ∈ cs, p c = true) ∧ cs.length ≤ n ∧
      (cs.length < n → ∀ c us, rest = char c :: us → p c = false) := by
  induction n generalizing ts cs with
  | zero =>
    rw [takeChars] at h
    · cases h
      simp
    · simp
  | succ n ih =>
    cases ts with
    | nil =>
      cases h
      simp
    | cons t ts =>
      cases t with
      | escaped c =>
        cases h
        simp
      | lone =>
        cases h
        simp
      | char c =>
        by_cases hc : p c = true
        · simp only [takeChars, hc, if_true] at h
          cases h
          obtain ⟨hts, hcs, hlen, hstop⟩ := ih rfl
          refine ⟨congrArg (char c :: ·) hts, List.forall_mem_cons.2 ⟨hc, hcs⟩,
            Nat.succ_le_succ hlen, fun hlt => hstop (Nat.lt_of_succ_lt_succ hlt)⟩
        · simp only [takeChars, hc] at h
          cases h
          simpa using hc

theorem takeChars_append (hcs : ∀ c ∈ cs, p c = true) (hlen : cs.length ≤ n)
    (hstop : cs.length < n → ∀ c us, rest = char c :: us → p c = false) :
    takeChars p n (chars cs ++ rest) = (cs, rest) := by
  induction cs generalizing n with
  | nil =>
    cases n with
    | zero => exact takeChars.eq_2 _ _ _ (by simp)
    | succ n =>
      cases rest with
      | nil => rfl
      | cons t rest =>
        cases t with
        | escaped c => rfl
        | lone => rfl
        | char c => simp [takeChars, hstop (Nat.succ_pos n) c rest rfl]
  | cons c cs ih =>
    obtain ⟨hc, hcs⟩ := List.forall_mem_cons.1 hcs
    cases n with
    | zero => cases hlen
    | succ n =>
      have htail := ih hcs (Nat.le_of_succ_le_succ hlen) fun hlt => hstop (Nat.succ_lt_succ hlt)
      simp [takeChars, hc, htail]

theorem takeChars_stop {c : Char} (hcs : ∀ d ∈ cs, p d = true) (hc : p c = false)
    (ts : List Token) :
    takeChars p (chars cs ++ char c :: ts).length (chars cs ++ char c :: ts) =
      (cs, char c :: ts) := by
  refine takeChars_append hcs (by simp) fun _ d us h => ?_
  cases h
  exact hc

theorem stops_of_cuts (hp : p ')' = false) (hstop : ∀ c us, rest = char c :: us → p c = false)
    (hc : Cuts rest rest') : ∀ c us, rest' = char c :: us → p c = false := by
  rintro c us rfl
  cases hc with
  | edge h =>
    cases h
    exact hp
  | cons _ _ => exact hstop c _ rfl

theorem takeChars_cuts (hp : p ')' = false) (h : takeChars p n ts = (cs, rest))
    (hc : Cuts rest rest') : takeChars p n (chars cs ++ rest') = (cs, rest') := by
  obtain ⟨-, hcs, hlen, hstop⟩ := eq_of_takeChars h
  exact takeChars_append hcs hlen fun hlt => stops_of_cuts hp (hstop hlt) hc

theorem not_mem_of_takeChars (hp : p ')' = false) (h : takeChars p n ts = (cs, rest)) :
    ')' ∉ cs := by
  intro hmem
  rw [(eq_of_takeChars h).2.1 _ hmem] at hp
  cases hp

theorem exists_takeChars (cs : List Char) (hp : p ')' = false)
    (h : takeChars p cs.length rest = (cs, rest')) (hc : Cuts ts rest) :
    ∃ us, takeChars p cs.length ts = (cs, us) := by
  have hcs := not_mem_of_takeChars hp h
  obtain ⟨rfl, htake, -, -⟩ := eq_of_takeChars h
  obtain ⟨us, rfl, -⟩ := hc.of_chars hcs
  exact ⟨us, takeChars_append htake (Nat.le_refl _) fun hlt => absurd hlt (Nat.lt_irrefl _)⟩

theorem eq_of_splitAt? {stop : Char} (h : splitAt? stop ts = some (cs, rest)) :
    ∃ before, ts = before ++ char stop :: rest ∧ lone ∉ before ∧
      ('\\' ∉ cs → before = chars cs) ∧
      ∀ us, splitAt? stop (before ++ char stop :: us) = some (cs, us) := by
  induction ts generalizing cs with
  | nil => simp [splitAt?] at h
  | cons t ts ih =>
    cases t with
    | char c =>
      by_cases hc : c = stop
      · simp only [splitAt?, hc, if_true, Option.some.injEq, Prod.mk.injEq] at h
        obtain ⟨rfl, rfl⟩ := h
        exact ⟨[], by rw [hc]; rfl, by simp, fun _ => rfl, fun us => by simp [splitAt?]⟩
      · simp only [splitAt?, hc, if_false, Option.map_eq_some_iff, Prod.exists,
          Prod.mk.injEq] at h
        obtain ⟨ds, rest', h, rfl, rfl⟩ := h
        obtain ⟨before, rfl, hlone, hchars, hagain⟩ := ih h
        refine ⟨char c :: before, rfl, by simpa using hlone, fun hbs => ?_, fun us => ?_⟩
        · exact congrArg (char c :: ·) (hchars fun hmem => hbs (List.mem_cons_of_mem c hmem))
        · simp [splitAt?, hc, hagain]
    | escaped c =>
      simp only [splitAt?, Option.map_eq_some_iff, Prod.exists, Prod.mk.injEq] at h
      obtain ⟨ds, rest', h, rfl, rfl⟩ := h
      obtain ⟨before, rfl, hlone, -, hagain⟩ := ih h
      refine ⟨escaped c :: before, rfl, by simpa using hlone, fun hbs => ?_, fun us => ?_⟩
      · exact absurd List.mem_cons_self hbs
      · simp [splitAt?, hagain]
    | lone => cases h

theorem hexCode?_passes {code : Nat} (h : hexCode? n ts = .ok (code, rest)) :
    Passes (hexCode? n) ts code rest := by
  cases htake : takeChars isHex n ts with
  | mk cs us =>
  simp only [hexCode?, htake] at h
  obtain ⟨rfl, -⟩ := eq_of_takeChars htake
  by_cases hlen : cs.length ≠ n
  · rw [if_pos hlen] at h
    cases h
  rw [if_neg hlen] at h
  by_cases hcode : numberIn 16 cs < 0x110000
  · rw [if_pos hcode] at h
    cases h
    refine .plain _ (not_mem_of_takeChars rfl htake) fun hus => ?_
    simp only [hexCode?, takeChars_cuts rfl htake hus, if_neg hlen, if_pos hcode]
  · rw [if_neg hcode] at h
    split at h <;> cases h

theorem named?_passes {g : Glossary} {code : Nat} (h : named? g ts = .ok (code, rest)) :
    Passes (named? g) ts code rest := by
  unfold named? at h
  split at h
  · next ts =>
    split at h
    · next c cs _ hsplit =>
      split at h
      · next d hd =>
        cases h
        obtain ⟨before, rfl, hlone, -, hagain⟩ := eq_of_splitAt? hsplit
        refine .closed (char '{' :: before) (by simpa using hlone) (by decide) fun _ => ?_
        simp only [named?, List.cons_append, hagain, hd]
      · cases h
    · cases h
  · cases h

theorem code?_passes {g : Glossary} {c : Char} {code : Nat} (h : code? g c ts = .ok (code, rest)) :
    Passes (code? g c) ts code rest := by
  unfold code? at h
  split at h
  · next hcontrol =>
    cases h
    exact .here fun _ => by simp [code?, hcontrol]
  next hcontrol =>
  repeat' split at h
  · next hx =>
    refine (hexCode?_passes h).imp fun h => ?_
    rwa [code?, hcontrol, if_pos hx]
  · next hx hu =>
    refine (hexCode?_passes h).imp fun h => ?_
    rwa [code?, hcontrol, if_neg hx, if_pos hu]
  · next hx hu hU =>
    refine (hexCode?_passes h).imp fun h => ?_
    rwa [code?, hcontrol, if_neg hx, if_neg hu, if_pos hU]
  · next hx hu hU hN =>
    refine (named?_passes h).imp fun h => ?_
    rwa [code?, hcontrol, if_neg hx, if_neg hu, if_neg hU, if_pos hN]
  · cases h
  · next hx hu hU hN hc =>
    cases h
    exact .here fun _ => by simp [code?, hcontrol, hx, hu, hU, hN, hc]

end Token

section Members

variable {g : Glossary} {t : Token} {m : Member} {ts rest : List Token}

theorem Member.ne_lone (h : Member.ofToken? g t ts = .ok (m, rest)) : t ≠ .lone := by
  rintro rfl
  cases h

theorem Member.ofToken?_passes (h : Member.ofToken? g t ts = .ok (m, rest)) :
    Passes (Member.ofToken? g t) ts m rest := by
  cases t with
  | char c =>
    cases h
    exact .here fun _ => rfl
  | lone => cases h
  | escaped c =>
    simp only [ofToken?, ofEscape?] at h
    split at h
    · next hclass =>
      cases h
      exact .here fun _ => by simp [ofToken?, ofEscape?, hclass]
    next hclass =>
    split at h
    · next hb =>
      cases h
      exact .here fun _ => by simp only [ofToken?, ofEscape?, hclass, if_pos hb]
    next hb =>
    split at h
    · next ho =>
      cases htake : takeChars isOctal 2 ts with
      | mk cs us =>
      rw [htake] at h
      obtain ⟨rfl, -⟩ := eq_of_takeChars htake
      dsimp only at h
      split at h
      · next hn =>
        cases h
        exact .plain _ (not_mem_of_takeChars rfl htake) fun hus => by
          simp [ofToken?, ofEscape?, hclass, hb, ho, takeChars_cuts rfl htake hus, hn]
      · cases h
    · next ho =>
      obtain ⟨⟨n, us⟩, hcode, heq⟩ := exceptMap_ok.1 h
      obtain ⟨rfl, rfl⟩ := Prod.mk.inj heq
      refine (code?_passes hcode).imp fun h => ?_
      simp [ofToken?, ofEscape?, hclass, hb, ho, h, Except.map]

inductive Members (g : Glossary) : Bool → CharSet → List Token → CharSet → List Token → Prop
  | close (s : CharSet) (ts : List Token) : Members g false s (.char ']' :: ts) s ts
  | hyphen {first : Bool} {s : CharSet} {t : Token} {m : Member} {ts rest : List Token}
      (hopen : ¬(t = .char ']' ∧ first = false))
      (hm : Member.ofToken? g t ts = .ok (m, .char '-' :: .char ']' :: rest)) :
      Members g first s (t :: ts) ((Member.code '-'.toNat).addTo (m.addTo s)) rest
  | range {first : Bool} {s s' : CharSet} {t u : Token} {a b : Nat}
      {ts rest₁ rest₂ rest : List Token} (hopen : ¬(t = .char ']' ∧ first = false))
      (ha : Member.ofToken? g t ts = .ok (.code a, .char '-' :: u :: rest₁)) (hu : u ≠ .char ']')
      (hb : Member.ofToken? g u rest₁ = .ok (.code b, rest₂)) (hle : a ≤ b)
      (hs : Members g false (s.addRange a b) rest₂ s' rest) : Members g first s (t :: ts) s' rest
  | single {first : Bool} {s s' : CharSet} {t : Token} {m : Member} {ts rest₁ rest : List Token}
      (hopen : ¬(t = .char ']' ∧ first = false))
      (hm : Member.ofToken? g t ts = .ok (m, rest₁))
      (hrange : ∀ u rest₂, rest₁ ≠ .char '-' :: u :: rest₂)
      (hs : Members g false (m.addTo s) rest₁ s' rest) : Members g first s (t :: ts) s' rest

theorem Members.of_members? {fuel : Nat} {first : Bool} {s s' : CharSet} {ts rest : List Token}
    (h : members? g fuel first s ts = .ok (s', rest)) : Members g first s ts s' rest := by
  induction fuel generalizing first s ts with
  | zero => cases h
  | succ fuel ih =>
    cases ts with
    | nil => cases h
    | cons t ts =>
      rw [members?] at h
      split at h
      · next hclose =>
        obtain ⟨rfl, rfl⟩ : t = .char ']' ∧ first = false := by simpa using hclose
        cases h
        exact .close _ _
      · next hclose =>
        have hopen : ¬(t = .char ']' ∧ first = false) := by simpa using hclose
        obtain ⟨⟨m, rest₁⟩, hm, h⟩ := exceptBind_ok.1 h
        dsimp only at h
        split at h
        · cases h
          exact .hyphen hopen hm
        · next u rest₂ hu =>
          obtain ⟨⟨m', rest₃⟩, hm', h⟩ := exceptBind_ok.1 h
          dsimp only at h
          repeat' split at h
          · next hle => exact .range hopen hm (fun e => hu e) hm' hle (ih h)
          · cases h
          · cases h
        · next hrange => exact .single hopen hm (fun u rest₂ => hrange u rest₂) (ih h)

theorem Members.passes {first : Bool} {s s' : CharSet} {ts rest : List Token}
    (h : Members g first s ts s' rest) :
    ∃ before, ts = before ++ .char ']' :: rest ∧ .lone ∉ before ∧
      ∀ us, Cuts rest us → Members g first s (before ++ .char ']' :: us) s' us := by
  induction h with
  | close s ts => exact ⟨[], rfl, by simp, fun us _ => .close s us⟩
  | @hyphen _ _ t _ _ _ hopen hm =>
    obtain ⟨passed, rfl, hlone, hagain⟩ := (Member.ofToken?_passes hm).again
    refine ⟨t :: passed ++ [.char '-'], by simp, ?_, fun us hus => ?_⟩
    · simpa [Ne.symm (Member.ne_lone hm)] using hlone
    · have hm' := hagain (.cons (.char '-') (.cons (.char ']') hus))
      simpa using Members.hyphen hopen hm'
  | @range _ _ _ t u _ _ _ _ _ _ hopen ha hu hb hle _ ih =>
    obtain ⟨passed, rfl, hlone, hagain⟩ := (Member.ofToken?_passes ha).again
    obtain ⟨passed', rfl, hlone', hagain'⟩ := (Member.ofToken?_passes hb).again
    obtain ⟨before, rfl, hbefore, hs⟩ := ih
    refine ⟨t :: passed ++ .char '-' :: u :: passed' ++ before, by simp, ?_, fun us hus => ?_⟩
    · simp [Ne.symm (Member.ne_lone ha), Ne.symm (Member.ne_lone hb), hlone, hlone', hbefore]
    · have tail := (Cuts.cons (.char ']') hus).append before
      have ha' := hagain (.cons (.char '-') (.cons u (tail.append passed')))
      simpa using Members.range hopen ha' hu (hagain' tail) hle (hs us hus)
  | @single _ _ _ t _ _ _ _ hopen hm hrange _ ih =>
    obtain ⟨passed, rfl, hlone, hagain⟩ := (Member.ofToken?_passes hm).again
    obtain ⟨before, rfl, hbefore, hs⟩ := ih
    refine ⟨t :: passed ++ before, by simp, ?_, fun us hus => ?_⟩
    · simp [Ne.symm (Member.ne_lone hm), hlone, hbefore]
    · have hm' := hagain ((Cuts.cons (.char ']') hus).append before)
      -- A hyphen that is followed by something was so before the cut.
      have hrange' : ∀ v vs, before ++ .char ']' :: us ≠ .char '-' :: v :: vs := by
        intro v vs heq
        cases before with
        | nil => simp at heq
        | cons w before =>
          obtain ⟨rfl, -⟩ := List.cons.inj heq
          cases before with
          | nil => exact hrange _ _ rfl
          | cons w before => exact hrange _ _ rfl
      simpa using Members.single hopen hm' hrange' (hs us hus)

theorem Members.members? {first : Bool} {s s' : CharSet} {ts rest : List Token}
    (h : Members g first s ts s' rest) {fuel : Nat} (hf : ts.length ≤ fuel) :
    members? g fuel first s ts = .ok (s', rest) := by
  induction h generalizing fuel with
  | close s ts =>
    obtain _ | fuel := fuel
    · simp at hf
    · simp [Pattern.members?]
  | hyphen hopen hm =>
    obtain _ | fuel := fuel
    · simp at hf
    · simp [Pattern.members?, hopen, hm]
  | range hopen ha hu hb hle _ ih =>
    obtain _ | fuel := fuel
    · simp at hf
    · have hlen := (Member.ofToken?_passes ha).length_le
      have hlen' := (Member.ofToken?_passes hb).length_le
      simp only [List.length_cons] at hf hlen
      simpa [Pattern.members?, hopen, ha, hb, hle] using ih (by omega)
  | single hopen hm hrange _ ih =>
    obtain _ | fuel := fuel
    · simp at hf
    · have hlen := (Member.ofToken?_passes hm).length_le
      simp only [List.length_cons] at hf
      simp only [Pattern.members?, hopen, hm, Bool.and_eq_true, decide_eq_true_eq,
        Bool.not_eq_true', if_false]
      rw [exceptOk_bind]
      dsimp only
      split
      · exact absurd rfl (hrange _ _)
      · exact absurd rfl (hrange _ _)
      · exact ih (by omega)

theorem charSet?_passes {s : CharSet} (h : charSet? g ts = .ok (s, rest)) :
    Passes (charSet? g) ts s rest := by
  unfold charSet? at h
  split at h
  · next ts =>
    obtain ⟨before, rfl, hlone, hagain⟩ := (Members.of_members? h).passes
    refine .closed (.char '^' :: before) (by simpa using hlone) (by decide) fun hus => ?_
    exact (hagain _ hus).members? (Nat.le_refl _)
  · next hne =>
    obtain ⟨before, rfl, hlone, hagain⟩ := (Members.of_members? h).passes
    refine .closed _ hlone (by decide) fun {us} hus => ?_
    unfold charSet?
    split
    · next heq =>
      cases before with
      | nil => simp at heq
      | cons t before =>
        obtain ⟨rfl, -⟩ := List.cons.inj heq
        exact absurd rfl (hne _)
    · exact (hagain us hus).members? (Nat.le_refl _)

end Members

end Allowlist.Pattern
