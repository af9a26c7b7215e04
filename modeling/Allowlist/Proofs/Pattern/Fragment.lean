import Allowlist.Proofs.Pattern.Reading
import Allowlist.Text.Pieces

namespace Allowlist.Pattern

open Token

namespace Token

theorem ofChars_cons {c : Char} (hc : c ≠ '\\') (cs : List Char) :
    ofChars (c :: cs) = char c :: ofChars cs := by
  cases cs <;> simp [ofChars, hc]

theorem charsInduction {motive : List Char → Prop} (nil : motive []) (lone : motive ['\\'])
    (escape : ∀ c cs, motive cs → motive ('\\' :: c :: cs))
    (ordinary : ∀ c cs, c ≠ '\\' → motive cs → motive (c :: cs)) (cs : List Char) : motive cs := by
  induction cs using ofChars.induct with
  | case1 => exact nil
  | case2 => exact lone
  | case3 c cs ih => exact escape c cs ih
  | case4 c cs hlast hc ih =>
    refine ordinary c cs ?_ ih
    rintro rfl
    cases cs with
    | nil => exact hlast rfl rfl
    | cons d ds => exact hc d ds rfl rfl

def Spells (cs : List Char) (ts : List Token) : Prop := ∀ ds, ofChars (cs ++ ds) = ts ++ ofChars ds

theorem spells_nil : Spells [] [] := fun _ => rfl

theorem spells_char {c : Char} (hc : c ≠ '\\') : Spells [c] [char c] := fun ds =>
  ofChars_cons hc ds

theorem spells_escaped (c : Char) : Spells ['\\', c] [escaped c] := fun _ => rfl

theorem Spells.append {as bs : List Char} {ts us : List Token} (ha : Spells as ts)
    (hb : Spells bs us) : Spells (as ++ bs) (ts ++ us) := by
  intro ds
  rw [List.append_assoc, ha, hb, List.append_assoc]

theorem Spells.eq {cs : List Char} {ts : List Token} (h : Spells cs ts) : ofChars cs = ts := by
  simpa [ofChars] using h []

theorem spells_or_lone (cs : List Char) : Spells cs (ofChars cs) ∨
    ∃ ds, cs = ds ++ ['\\'] ∧ Spells ds (ofChars ds) ∧ ofChars cs = ofChars ds ++ [lone] := by
  induction cs using charsInduction with
  | nil => exact .inl spells_nil
  | lone => exact .inr ⟨[], rfl, spells_nil, rfl⟩
  | escape c cs ih =>
    refine ih.imp (fun h => (spells_escaped c).append h) ?_
    rintro ⟨ds, rfl, h, hcs⟩
    exact ⟨'\\' :: c :: ds, rfl, (spells_escaped c).append h, by simp [ofChars, hcs]⟩
  | ordinary c cs hc ih =>
    rw [ofChars_cons hc]
    refine ih.imp (fun h => (spells_char hc).append h) ?_
    rintro ⟨ds, rfl, h, hcs⟩
    refine ⟨c :: ds, rfl, ?_, by rw [hcs, ofChars_cons hc]; rfl⟩
    rw [ofChars_cons hc]
    exact (spells_char hc).append h

theorem exists_of_ofChars_eq_append {cs : List Char} {before after : List Token} {c : Char}
    (h : ofChars cs = before ++ char c :: after) : ∃ as bs, cs = as ++ c :: bs ∧
      Spells as before ∧ ofChars bs = after ∧ c ≠ '\\' := by
  induction cs using charsInduction generalizing before with
  | nil => simp [ofChars] at h
  | lone => cases before <;> simp [ofChars] at h
  | escape d cs ih =>
    cases before with
    | nil => simp [ofChars] at h
    | cons t before =>
      obtain ⟨rfl, htail⟩ := List.cons.inj h
      obtain ⟨as, bs, rfl, has, hbs⟩ := ih htail
      exact ⟨'\\' :: d :: as, bs, rfl, (spells_escaped d).append has, hbs⟩
  | ordinary d cs hd ih =>
    rw [ofChars_cons hd] at h
    cases before with
    | nil =>
      obtain ⟨heq, htail⟩ := List.cons.inj h
      cases heq
      exact ⟨[], cs, rfl, spells_nil, htail, hd⟩
    | cons t before =>
      obtain ⟨rfl, htail⟩ := List.cons.inj h
      obtain ⟨as, bs, rfl, has, hbs⟩ := ih htail
      exact ⟨d :: as, bs, rfl, (spells_char hd).append has, hbs⟩

def literal (c : Char) : Token :=
  if Regexp.metacharacters.contains c then escaped c else char c

theorem spells_literalChar (c : Char) : Spells (Regexp.literalChar c) [literal c] := by
  by_cases h : c ∈ Regexp.metacharacters
  · simpa [Regexp.literalChar, literal, h] using spells_escaped c
  · have hc : c ≠ '\\' := by
      rintro rfl
      exact h (by decide +kernel)
    simpa [Regexp.literalChar, literal, h] using spells_char hc

theorem spells_literal (s : String) : Spells (Regexp.literal s).toList (s.toList.map literal) := by
  rw [Regexp.literal, String.toList_ofList]
  induction s.toList with
  | nil => exact spells_nil
  | cons c cs ih => exact (spells_literalChar c).append ih

end Token

namespace Reader

theorem escape?_of_not_isAlphanum {c : Char} (hc : c.isAlphanum = false) (r : Reader)
    (ts : List Token) : r.escape? c ts = .ok (r.pushCode c.toNat, ts) := by
  have ne : ∀ d : Char, d.isAlphanum = true → c ≠ d := by
    rintro d hd rfl
    rw [hc] at hd
    cases hd
  have hanchor : anchorEscape? c = none := by
    unfold anchorEscape?
    split
    case h_5 => rfl
    all_goals exact absurd rfl (ne _ rfl)
  have hclass : classEscape? c = none := by
    unfold classEscape?
    split
    case h_7 => rfl
    all_goals exact absurd rfl (ne _ rfl)
  have hcontrol : control? c = none := by
    unfold control?
    split
    case h_7 => rfl
    all_goals exact absurd rfl (ne _ rfl)
  have hdigit : c.isDigit = false := by simp_all [Char.isAlphanum]
  simp [escape?, hanchor, hclass, hdigit, code?, hcontrol, hc, ne, Except.map]

theorem escape?_metacharacter {c : Char} (hc : c ∈ Regexp.metacharacters) (r : Reader)
    (ts : List Token) : r.escape? c ts = .ok (r.pushCode c.toNat, ts) := by
  have plain : Regexp.metacharacters.all (!·.isAlphanum) = true := by decide +kernel
  exact escape?_of_not_isAlphanum (by simpa using List.all_eq_true.1 plain c hc) r ts

theorem isLayout_metacharacter {c : Char} (h : isLayout c = true) : c ∈ Regexp.metacharacters := by
  have blanks : ∀ n ∈ List.range' 9 5, Char.ofNat n ∈ Regexp.metacharacters := by decide +kernel
  simp only [isLayout, Text.isAsciiBlank, Bool.or_eq_true, beq_iff_eq, Bool.and_eq_true,
    decide_eq_true_eq, Char.le_def, UInt32.le_iff_toNat_le] at h
  obtain rfl | ⟨hlo, hhi⟩ := h
  · decide +kernel
  · rw [← Char.ofNat_toNat c]
    exact blanks _ (List.mem_range'_1.2 ⟨hlo, Nat.lt_succ_of_le hhi⟩)

theorem char?_ordinary {c : Char} (hc : c ∉ Regexp.metacharacters) (r : Reader) (ts : List Token) :
    r.char? c ts = .ok (r.pushCode c.toNat, ts) := by
  have hl : isLayout c = false := Bool.eq_false_iff.2 fun h => hc (isLayout_metacharacter h)
  have ne : ∀ d ∈ Regexp.metacharacters, c ≠ d := fun d hd h => hc (h ▸ hd)
  have hash : c ≠ '#' := ne _ (by decide +kernel)
  simp only [char?, hl, hash, Bool.and_false, decide_false, Bool.false_eq_true, if_false]
  split
  case h_12 => rfl
  all_goals exact absurd rfl (ne _ (by decide +kernel))

theorem step?_literal (r : Reader) (c : Char) (ts : List Token) :
    r.step? (literal c) ts = .ok (r.pushCode c.toNat, ts) := by
  by_cases hc : c ∈ Regexp.metacharacters
  · simpa [literal, hc, step?] using escape?_metacharacter hc r ts
  · simpa [literal, hc, step?] using char?_ordinary hc r ts

theorem step?_open (r : Reader) (ts : List Token) : r.step? (.char '(') ts = r.open? ts := by
  simp [step?, char?, show isLayout '(' = false from rfl]

theorem step?_close (r : Reader) (ts : List Token) : r.step? (.char ')') ts = r.close? ts := by
  simp [step?, char?, show isLayout ')' = false from rfl]

theorem step?_bar (r : Reader) (ts : List Token) : r.step? (.char '|') ts = r.bar? ts := by
  simp [step?, char?, show isLayout '|' = false from rfl]

def branch (r : Reader) : Reader :=
  { r with level := { r.level with
      alternatives := r.level.sequence :: r.level.alternatives, items := [] } }

@[simp] theorem branch_alternatives (r : Reader) :
    r.branch.level.alternatives = r.level.sequence :: r.level.alternatives := rfl

theorem bar?_bare {r : Reader} (h : r.level.opening = .bare) (ts : List Token) :
    r.bar? ts = .ok (r.branch, ts) := by
  simp [bar?, h, branch]

theorem close?_bare {r : Reader} {l : Level} {ls : List Level} (h : r.level.opening = .bare)
    (ho : r.outer = l :: ls) (ts : List Token) :
    r.close? ts = .ok (r.closeWith l ls r.level.body, ts) := by
  simp [close?, ho, h]

def add (r : Reader) (items : List (Role × Pattern)) : Reader :=
  { r with level := { r.level with items := items ++ r.level.items } }

@[simp] theorem mode_add (r : Reader) (items : List (Role × Pattern)) :
    (r.add items).mode = r.mode := rfl

theorem add_add (r : Reader) (xs ys : List (Role × Pattern)) :
    (r.add xs).add ys = r.add (ys ++ xs) := by
  simp [add]

end Reader

def exactly (m : Mode) (s : String) : Pattern :=
  concat (s.toList.map fun c => .char m (.char c))

def anyOf : List Pattern → Pattern
  | [] => .empty
  | p :: ps => choice p ps

theorem Level.body_eq (l : Level) : l.body = anyOf (l.alternatives.reverse ++ [l.sequence]) := by
  rw [Level.body]
  split <;> simp_all [anyOf]

/-- A part of an expression that stands for a text, or for any of several. -/
inductive Fragment
  | text (s : String)
  | choice (ss : List String)

namespace Fragment

open Reader

def branches : List String → List Token
  | [] => []
  | [s] => s.toList.map literal
  | s :: t :: ss => s.toList.map literal ++ .char '|' :: branches (t :: ss)

def tokens : Fragment → List Token
  | text s => s.toList.map literal
  | choice ss => .char '(' :: .char '?' :: .char ':' :: (branches ss ++ [.char ')'])

def textItems (m : Mode) (s : String) : List (Role × Pattern) :=
  (s.toList.map fun c => (.plain, .char m (.char c))).reverse

def items (m : Mode) : Fragment → List (Role × Pattern)
  | text s => textItems m s
  | choice ss => [(.plain, anyOf (ss.map (exactly m)))]

theorem reads_text (r : Reader) (s : String) (rest : List Token) :
    Reads r (s.toList.map literal ++ rest) (r.add (textItems r.mode s)) rest := by
  rw [textItems]
  induction s.toList generalizing r with
  | nil => exact .here _ _
  | cons c cs ih =>
    refine .step (step?_literal r c _) ?_
    have := ih (r.pushCode c.toNat)
    rwa [show r.pushCode c.toNat = r.add [(.plain, .char r.mode (.char c))] from rfl, mode_add,
      add_add, ← List.reverse_cons] at this

theorem sequence_add_text {r : Reader} (hi : r.level.items = []) (s : String) :
    (r.add (textItems r.mode s)).level.sequence = exactly r.mode s := by
  simp [add, Level.sequence, hi, textItems, exactly, Function.comp_def]

theorem reads_branches {r : Reader} {l : Level} {ls : List Level} {s : String} {ss : List String}
    (rest : List Token) (hbare : r.level.opening = .bare) (hitems : r.level.items = [])
    (houter : r.outer = l :: ls) :
    Reads r (branches (s :: ss) ++ .char ')' :: rest)
      (r.closeWith l ls
        (anyOf (r.level.alternatives.reverse ++ (s :: ss).map (exactly r.mode)))) rest := by
  induction ss generalizing r s with
  | nil =>
    have hclose := close?_bare (r := r.add (textItems r.mode s)) hbare houter rest
    rw [Level.body_eq, sequence_add_text hitems] at hclose
    exact (reads_text r s _).trans (.one ((step?_close _ _).trans hclose))
  | cons t ss ih =>
    have hbar := bar?_bare (r := r.add (textItems r.mode s)) hbare
      (branches (t :: ss) ++ .char ')' :: rest)
    rw [branches, List.append_assoc]
    refine (reads_text r s _).trans (.step ((step?_bar _ _).trans hbar) ?_)
    have := @ih (r.add (textItems r.mode s)).branch t hbare rfl houter
    rwa [branch_alternatives, sequence_add_text hitems, List.reverse_cons,
      List.append_assoc] at this

theorem reads (f : Fragment) (r : Reader) (rest : List Token) :
    Reads r (f.tokens ++ rest) (r.add (f.items r.mode)) rest := by
  cases f with
  | text s => exact reads_text r s rest
  | choice ss =>
    have hopen :
        r.step? (.char '(') (.char '?' :: .char ':' :: (branches ss ++ .char ')' :: rest)) =
          .ok (r.openLevel .bare r.mode, branches ss ++ .char ')' :: rest) := step?_open _ _
    rw [tokens, List.cons_append, List.cons_append, List.cons_append, List.append_assoc]
    refine .step hopen ?_
    cases ss with
    | nil => exact .one (step?_close _ _)
    | cons s ss => exact reads_branches rest rfl rfl rfl

theorem reads_all (fs : List Fragment) (r : Reader) (rest : List Token) :
    Reads r (fs.flatMap tokens ++ rest) (r.add (fs.reverse.flatMap (items r.mode))) rest := by
  induction fs generalizing r with
  | nil => exact .here _ _
  | cons f fs ih =>
    rw [List.flatMap_cons, List.append_assoc]
    refine (f.reads r _).trans ?_
    have := ih (r.add (f.items r.mode))
    rw [mode_add, add_add] at this
    simpa using this

theorem spells_join (ss : List String) :
    Spells (Text.join "|" (ss.map Regexp.literal)).toList (branches ss) := by
  induction ss using branches.induct with
  | case1 => exact spells_nil
  | case2 s => exact spells_literal s
  | case3 s t ss ih =>
    simp only [List.map_cons, Text.join, String.toList_append] at ih ⊢
    rw [List.append_assoc]
    exact (spells_literal s).append ((spells_char (by decide)).append ih)

theorem spells_choice (ss : List String) :
    Spells ("(?:" ++ Text.join "|" (ss.map Regexp.literal) ++ ")").toList (choice ss).tokens := by
  have hopen : Spells "(?:".toList [.char '(', .char '?', .char ':'] := fun _ => rfl
  simp only [String.toList_append]
  rw [List.append_assoc]
  exact hopen.append ((spells_join ss).append (spells_char (by decide)))

theorem not_mem_text {d : Char} (hd : d ∈ Regexp.metacharacters) (cs : List Char) :
    .char d ∉ cs.map literal := by
  intro h
  obtain ⟨c, -, hc⟩ := List.mem_map.1 h
  by_cases hm : c ∈ Regexp.metacharacters <;> simp_all [literal]

theorem not_mem_branches {d : Char} (hd : d ∈ Regexp.metacharacters) (hbar : d ≠ '|')
    (ss : List String) : .char d ∉ branches ss := by
  induction ss using branches.induct with
  | case1 => simp [branches]
  | case2 s => exact not_mem_text hd s.toList
  | case3 s t ss ih => simp [branches, ih, hbar, not_mem_text hd]

theorem not_mem_tokens {d : Char} (hd : d ∈ Regexp.metacharacters)
    (hmarks : d ∉ ['(', '?', ':', '|', ')']) (f : Fragment) : .char d ∉ f.tokens := by
  cases f with
  | text s => exact not_mem_text hd s.toList
  | choice ss => simp_all [tokens, not_mem_branches]

theorem after_close_of_tokens {f : Fragment} {pre rest : List Token}
    (h : f.tokens = pre ++ .char ')' :: rest) : rest = [] := by
  cases f with
  | text s =>
    have : .char ')' ∈ (text s).tokens := h ▸ by simp
    exact absurd this (not_mem_text (by decide +kernel) s.toList)
  | choice ss =>
    obtain rfl | ⟨rest, t, rfl⟩ := rest.eq_nil_or_concat
    · rfl
    have hbody : .char '(' :: .char '?' :: .char ':' :: branches ss = pre ++ .char ')' :: rest := by
      have : (.char '(' :: .char '?' :: .char ':' :: branches ss) ++ [.char ')'] =
          (pre ++ .char ')' :: rest) ++ [t] := by simpa [tokens] using h
      exact (List.append_inj' this rfl).1
    have : .char ')' ∈ branches ss := by
      have : .char ')' ∈ .char '(' :: .char '?' :: .char ':' :: branches ss := hbody ▸ by simp
      simpa using this
    exact absurd this (not_mem_branches (by decide +kernel) (by decide) ss)

theorem after_close {fs : List Fragment} {pre rest : List Token}
    (h : fs.flatMap tokens = pre ++ .char ')' :: rest) :
    ∃ fs', fs' <:+ fs ∧ rest = fs'.flatMap tokens := by
  induction fs generalizing pre with
  | nil => simp at h
  | cons f fs ih =>
    rw [List.flatMap_cons] at h
    obtain ⟨mid, hpre, htail⟩ | ⟨mid, hf, htail⟩ := List.append_eq_append_iff.1 h
    · obtain ⟨fs', hfs, rfl⟩ := ih htail
      exact ⟨fs', hfs.trans (List.suffix_cons _ _), rfl⟩
    · cases mid with
      | nil =>
        obtain ⟨fs', hfs, rfl⟩ := @ih [] htail.symm
        exact ⟨fs', hfs.trans (List.suffix_cons _ _), rfl⟩
      | cons t mid =>
        obtain ⟨rfl, rfl⟩ := List.cons.inj htail
        obtain rfl := after_close_of_tokens hf
        exact ⟨fs, List.suffix_cons _ _, rfl⟩

end Fragment

end Allowlist.Pattern
