import Allowlist.Range
import Allowlist.Proofs.Lists

namespace Allowlist.Text

inductive SpellsDigits : List Char → List Nat → Prop
  | last {c d} : digit? c = some d → SpellsDigits [c] [d]
  | next {c d cs ds} : digit? c = some d → SpellsDigits cs ds → SpellsDigits (c :: cs) (d :: ds)
  | apart {c d cs ds} : digit? c = some d → SpellsDigits cs ds →
      SpellsDigits (c :: '_' :: cs) (d :: ds)

inductive Sign
  | bare
  | plus
  | minus

def Sign.chars : Sign → List Char
  | bare => []
  | plus => ['+']
  | minus => ['-']

def Sign.apply : Sign → Nat → Int
  | bare, n => n
  | plus, n => n
  | minus, n => -n

/-- A text with a sign and digits, not too many of them, and white space around. -/
inductive Written : String → Sign → List Nat → Prop
  | intro {s before after sign cs ds} : s.toList = before ++ (sign.chars ++ cs) ++ after →
      (∀ c ∈ before, isPadding c = true) → (∀ c ∈ after, isPadding c = true) →
      SpellsDigits cs ds → ds.length ≤ maxDigits → Written s sign ds

def Spells (s : String) (n : Int) : Prop :=
  ∃ sign ds, Written s sign ds ∧ n = sign.apply (ofDigits ds)

/-- Two ways to write a number, with the same digits behind zeros in front. -/
inductive Respelled : String → String → Prop
  | intro {s t sign sign' ds} (m n : Nat) : Written s sign (List.replicate m 0 ++ ds) →
      Written t sign' (List.replicate n 0 ++ ds) → (sign = .minus ↔ sign' = .minus) →
      Respelled s t

theorem Ranges.mem_of_has {n : Nat} {rs : Ranges} (h : rs.has n = true) :
    n ∈ rs.flatMap fun r => List.range' r.1 (r.2 + 1 - r.1) := by
  induction rs with
  | nil => cases h
  | cons r rs ih =>
    obtain ⟨first, last⟩ := r
    simp only [has, Bool.and_eq_true, decide_eq_true_eq, Bool.or_eq_true] at h
    rw [List.flatMap_cons, List.mem_append]
    cases h.2 with
    | inl hl => exact .inl (List.mem_range'_1.2 ⟨h.1, by omega⟩)
    | inr hr => exact .inr (ih hr)

theorem digit?_of_isBlank {c : Char} (h : isBlank c = true) : digit? c = none := by
  have none : ∀ n ∈ blanks.flatMap fun r => List.range' r.1 (r.2 + 1 - r.1),
      (zeros.find? fun z => z ≤ n && n < z + 10) = none := by decide
  rw [digit?, none _ (Ranges.mem_of_has h)]
  rfl

theorem not_isPadding_of_digit? {c : Char} {d : Nat} (h : digit? c = some d) :
    isPadding c = false := by
  cases hb : isBlank c with
  | false => simp [isPadding, hb]
  | true =>
    rw [digit?_of_isBlank hb] at h
    cases h

theorem digit?_low : digit? '_' = none := by decide

theorem digit?_plus : digit? '+' = none := by decide

theorem digit?_minus : digit? '-' = none := by decide

variable {cs : List Char} {ds : List Nat} {n : Int} {s : String}

namespace SpellsDigits

theorem exists_cons (h : SpellsDigits cs ds) : ∃ c d cs', cs = c :: cs' ∧ digit? c = some d := by
  cases h with
  | last hc => exact ⟨_, _, _, rfl, hc⟩
  | next hc => exact ⟨_, _, _, rfl, hc⟩
  | apart hc => exact ⟨_, _, _, rfl, hc⟩

theorem exists_append (h : SpellsDigits cs ds) :
    ∃ cs' c d, cs = cs' ++ [c] ∧ digit? c = some d := by
  induction h with
  | last hc => exact ⟨[], _, _, rfl, hc⟩
  | next _ _ ih =>
    obtain ⟨cs', c', d', rfl, hc'⟩ := ih
    exact ⟨_ :: cs', c', d', rfl, hc'⟩
  | apart _ _ ih =>
    obtain ⟨cs', c', d', rfl, hc'⟩ := ih
    exact ⟨_ :: '_' :: cs', c', d', rfl, hc'⟩

theorem digits?_eq (h : SpellsDigits cs ds) : digits? cs = some ds := by
  induction h with
  | last hc => simp [digits?, hc]
  | @next c d cs ds hc h ih =>
    obtain ⟨c', d', cs', rfl, hc'⟩ := h.exists_cons
    have hne : c' ≠ '_' := by
      rintro rfl
      cases digit?_low.symm.trans hc'
    rw [digits?]
    · rw [hc, ih]
      rfl
    · simp
    · simp [hne]
  | apart hc _ ih => simp [digits?, hc, ih]

end SpellsDigits

theorem digits?_eq_some_iff : digits? cs = some ds ↔ SpellsDigits cs ds := by
  refine ⟨fun h => ?_, SpellsDigits.digits?_eq⟩
  fun_induction digits? cs generalizing ds with
  | case1 => cases h
  | case2 c =>
    obtain ⟨d, hd, rfl⟩ := Option.map_eq_some_iff.1 h
    exact .last hd
  | case3 c cs ih =>
    obtain ⟨d, hd, h⟩ := Option.bind_eq_some_iff.1 h
    obtain ⟨es, hes, h⟩ := Option.bind_eq_some_iff.1 h
    cases h
    exact .apart hd (ih hes)
  | case4 c cs _ _ ih =>
    obtain ⟨d, hd, h⟩ := Option.bind_eq_some_iff.1 h
    obtain ⟨es, hes, h⟩ := Option.bind_eq_some_iff.1 h
    cases h
    exact .next hd (ih hes)

theorem natural?_eq_some_iff {k : Nat} : natural? cs = some k ↔
    ∃ ds, SpellsDigits cs ds ∧ ds.length ≤ maxDigits ∧ k = ofDigits ds := by
  constructor
  · intro h
    obtain ⟨ds, hds, h⟩ := Option.bind_eq_some_iff.1 h
    split at h
    · rename_i hlen
      cases h
      exact ⟨ds, digits?_eq_some_iff.1 hds, hlen, rfl⟩
    · cases h
  · rintro ⟨ds, hds, hlen, rfl⟩
    simp [natural?, hds.digits?_eq, hlen]

theorem SpellsDigits.strip_eq {before after : List Char} (h : SpellsDigits cs ds) (sign : Sign)
    (hb : ∀ c ∈ before, isPadding c = true) (ha : ∀ c ∈ after, isPadding c = true) :
    strip isPadding (before ++ (sign.chars ++ cs) ++ after) = sign.chars ++ cs := by
  obtain ⟨first, _, rest, hfirst, hd⟩ := h.exists_cons
  obtain ⟨front, last, _, hlast, hd'⟩ := h.exists_append
  apply strip_append hb ha
  · cases sign with
    | bare => exact ⟨first, rest, hfirst, not_isPadding_of_digit? hd⟩
    | plus => exact ⟨'+', cs, rfl, by decide⟩
    | minus => exact ⟨'-', cs, rfl, by decide⟩
  · exact ⟨sign.chars ++ front, last, by rw [hlast, List.append_assoc],
      not_isPadding_of_digit? hd'⟩

theorem SpellsDigits.integer?_eq (h : SpellsDigits cs ds) (hlen : ds.length ≤ maxDigits)
    (sign : Sign) (hs : strip isPadding s.toList = sign.chars ++ cs) :
    integer? s = some (sign.apply (ofDigits ds)) := by
  have number : natural? cs = some (ofDigits ds) := natural?_eq_some_iff.2 ⟨ds, h, hlen, rfl⟩
  rw [integer?, hs]
  cases sign with
  | plus => simp [Sign.chars, number, Sign.apply]
  | minus => simp [Sign.chars, number, Sign.apply]
  | bare =>
    obtain ⟨c, d, rest, rfl, hd⟩ := h.exists_cons
    have hplus : c ≠ '+' := by
      rintro rfl
      cases digit?_plus.symm.trans hd
    have hminus : c ≠ '-' := by
      rintro rfl
      cases digit?_minus.symm.trans hd
    simp [Sign.chars, hplus, hminus, number, Sign.apply]

theorem exists_sign (h : integer? s = some n) : ∃ (sign : Sign) (cs : List Char) (k : Nat),
    strip isPadding s.toList = sign.chars ++ cs ∧ natural? cs = some k ∧ n = sign.apply k := by
  unfold integer? at h
  split at h
  · rename_i cs hs
    obtain ⟨k, hk, rfl⟩ := Option.map_eq_some_iff.1 h
    exact ⟨.plus, cs, k, hs, hk, rfl⟩
  · rename_i cs hs
    obtain ⟨k, hk, rfl⟩ := Option.map_eq_some_iff.1 h
    exact ⟨.minus, cs, k, hs, hk, rfl⟩
  · obtain ⟨k, hk, rfl⟩ := Option.map_eq_some_iff.1 h
    exact ⟨.bare, _, k, rfl, hk, rfl⟩

theorem Written.integer?_eq {sign : Sign} (h : Written s sign ds) :
    integer? s = some (sign.apply (ofDigits ds)) := by
  obtain ⟨heq, hb, ha, hds, hlen⟩ := h
  exact hds.integer?_eq hlen sign (heq ▸ hds.strip_eq sign hb ha)

theorem integer?_eq_some_iff : integer? s = some n ↔ Spells s n := by
  constructor
  · intro h
    obtain ⟨sign, cs, k, hs, hk, rfl⟩ := exists_sign h
    obtain ⟨ds, hds, hlen, rfl⟩ := natural?_eq_some_iff.1 hk
    obtain ⟨before, after, heq, hb, ha⟩ := exists_strip_eq isPadding s.toList
    exact ⟨sign, ds, .intro (hs ▸ heq) hb ha hds hlen, rfl⟩
  · rintro ⟨sign, ds, h, rfl⟩
    exact h.integer?_eq

theorem ofDigits_zeros (m : Nat) (ds : List Nat) :
    ofDigits (List.replicate m 0 ++ ds) = ofDigits ds := by
  induction m with
  | zero => rfl
  | succ m ih => exact ih

theorem Sign.apply_congr {sign sign' : Sign} (h : sign = .minus ↔ sign' = .minus) (k : Nat) :
    sign.apply k = sign'.apply k := by
  cases sign <;> cases sign' <;> simp_all [apply]

theorem Respelled.exists_integer? {t : String} (h : Respelled s t) :
    ∃ n, integer? s = some n ∧ integer? t = some n := by
  obtain ⟨m, n, hs, ht, hsign⟩ := h
  refine ⟨_, hs.integer?_eq, ?_⟩
  rw [ht.integer?_eq, ofDigits_zeros, ofDigits_zeros, Sign.apply_congr hsign]

theorem integer?_empty : integer? "" = none := by decide

end Allowlist.Text

namespace Allowlist

theorem optionMapM_eq_some_iff {α β : Type} {f : α → Option β} {as : List α} {bs : List β} :
    as.mapM f = some bs ↔ List.Forall₂ (fun a b => f a = some b) as bs := by
  induction as generalizing bs with
  | nil => simp [eq_comm]
  | cons a as ih =>
    rw [List.mapM_cons, List.forall₂_cons_left_iff]
    constructor
    · intro h
      obtain ⟨b, hb, h⟩ := Option.bind_eq_some_iff.1 h
      obtain ⟨cs, hcs, h⟩ := Option.bind_eq_some_iff.1 h
      cases h
      exact ⟨b, cs, hb, ih.1 hcs, rfl⟩
    · rintro ⟨b, cs, hb, hcs, rfl⟩
      rw [hb, ih.2 hcs]
      rfl

theorem build?_eq_some_iff {s : String} {ns : List Int} : build? s = some ns ↔
    List.Forall₂ (fun t n => Text.integer? t = some n) (Text.pieces '.' s) ns := by
  unfold build?
  split
  · rename_i hs
    subst hs
    have pieces : Text.pieces '.' "" = [""] := rfl
    simp [pieces, List.forall₂_cons_left_iff, Text.integer?_empty]
  · exact optionMapM_eq_some_iff

def RespelledBuild (s t : String) : Prop :=
  List.Forall₂ Text.Respelled (Text.pieces '.' s) (Text.pieces '.' t)

theorem RespelledBuild.exists_build? {s t : String} (h : RespelledBuild s t) :
    ∃ ns, build? s = some ns ∧ build? t = some ns := by
  obtain ⟨ns, hs, ht⟩ := (h.imp fun _ _ h => h.exists_integer?).exists_common
  exact ⟨ns, build?_eq_some_iff.2 hs, build?_eq_some_iff.2 ht⟩

end Allowlist
