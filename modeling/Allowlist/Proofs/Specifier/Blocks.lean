import Mathlib.Data.List.Infix
import Allowlist.Specifier

namespace Allowlist.Specifier

def braceWeight (c : Char) : Int := if c = '{' then 1 else if c = '}' then -1 else 0

def braceDepth : List Char → Int
  | [] => 0
  | c :: cs => braceWeight c + braceDepth cs

@[simp] theorem braceDepth_nil : braceDepth [] = 0 := rfl

@[simp] theorem braceDepth_cons (c : Char) (cs : List Char) :
    braceDepth (c :: cs) = braceWeight c + braceDepth cs := rfl

theorem braceDepth_append (cs ds : List Char) :
    braceDepth (cs ++ ds) = braceDepth cs + braceDepth ds := by
  induction cs with
  | nil => simp
  | cons c cs ih => simp [ih, Int.add_assoc]

/-- The depth first returns to zero at the last character. -/
structure IsClosed (cs : List Char) : Prop where
  opens : cs.head? = some '{'
  closes : braceDepth cs = 0
  before : ∀ p, p <+: cs → p ≠ [] → p ≠ cs → 0 < braceDepth p

structure IsUnclosed (cs : List Char) : Prop where
  opens : cs.head? = some '{'
  stays : ∀ p, p <+: cs → p ≠ [] → 0 < braceDepth p

def Returns (d : Int) (cs : List Char) : Prop :=
  d + braceDepth cs = 0 ∧ ∀ p, p <+: cs → p ≠ cs → 0 < d + braceDepth p

def StaysOpen (d : Int) (cs : List Char) : Prop := ∀ p, p <+: cs → 0 < d + braceDepth p

theorem forall_prefix_cons {c : Char} {cs : List Char} {P : List Char → Prop} :
    (∀ p, p <+: c :: cs → P p) ↔ P [] ∧ ∀ p, p <+: cs → P (c :: p) := by
  constructor
  · intro h
    exact ⟨h [] (List.nil_prefix), fun p hp => h _ ((List.prefix_cons_inj c).2 hp)⟩
  · rintro ⟨hnil, hcons⟩ p hp
    obtain rfl | ⟨q, rfl, hq⟩ := List.prefix_cons_iff.1 hp
    · exact hnil
    · exact hcons q hq

theorem returns_cons {d : Int} {c : Char} {cs : List Char} :
    Returns d (c :: cs) ↔ 0 < d ∧ Returns (d + braceWeight c) cs := by
  simp only [Returns, forall_prefix_cons, braceDepth_cons, braceDepth_nil, Int.add_zero,
    Int.add_assoc, ne_eq, List.cons.injEq, true_and, List.nil_eq, reduceCtorEq, not_false_eq_true,
    forall_const]
  tauto

theorem staysOpen_cons {d : Int} {c : Char} {cs : List Char} :
    StaysOpen d (c :: cs) ↔ 0 < d ∧ StaysOpen (d + braceWeight c) cs := by
  simp only [StaysOpen, forall_prefix_cons, braceDepth_cons, braceDepth_nil, Int.add_zero,
    Int.add_assoc]

theorem returns_zero {cs : List Char} : Returns 0 cs ↔ cs = [] := by
  constructor
  · rintro ⟨-, h⟩
    by_contra hne
    simpa using h [] List.nil_prefix (Ne.symm hne)
  · rintro rfl
    exact ⟨rfl, fun p hp hne => absurd (List.prefix_nil.1 hp) hne⟩

theorem braceWeight_open : braceWeight '{' = 1 := rfl

theorem isClosed_cons {cs : List Char} : IsClosed ('{' :: cs) ↔ Returns 1 cs := by
  constructor
  · rintro ⟨-, hz, hp⟩
    rw [braceDepth_cons, braceWeight_open] at hz
    refine ⟨hz, fun p hpre hne => ?_⟩
    have h := hp ('{' :: p) ((List.prefix_cons_inj _).2 hpre) (List.cons_ne_nil _ _)
      (fun e => hne (List.cons.inj e).2)
    rwa [braceDepth_cons, braceWeight_open] at h
  · rintro ⟨hz, hp⟩
    refine ⟨rfl, by rwa [braceDepth_cons, braceWeight_open], ?_⟩
    rw [forall_prefix_cons]
    refine ⟨fun h => absurd rfl h, fun p hpre _ hne => ?_⟩
    rw [braceDepth_cons, braceWeight_open]
    exact hp p hpre (fun e => hne (congrArg _ e))

theorem isUnclosed_cons {cs : List Char} : IsUnclosed ('{' :: cs) ↔ StaysOpen 1 cs := by
  constructor
  · rintro ⟨-, hp⟩ p hpre
    have h := hp ('{' :: p) ((List.prefix_cons_inj _).2 hpre) (List.cons_ne_nil _ _)
    rwa [braceDepth_cons, braceWeight_open] at h
  · intro hp
    refine ⟨rfl, ?_⟩
    rw [forall_prefix_cons]
    refine ⟨fun h => absurd rfl h, fun p hpre _ => ?_⟩
    rw [braceDepth_cons, braceWeight_open]
    exact hp p hpre

/-- No brace closes that was not opened before, and none is open at the end. -/
structure IsBalanced (cs : List Char) : Prop where
  closes : braceDepth cs = 0
  before : ∀ p, p <+: cs → 0 ≤ braceDepth p

instance (cs : List Char) : Decidable (IsBalanced cs) :=
  decidable_of_iff (braceDepth cs = 0 ∧ ∀ p ∈ cs.inits, 0 ≤ braceDepth p) <| by
    simp only [List.mem_inits]
    exact ⟨fun ⟨h, h'⟩ => ⟨h, h'⟩, fun ⟨h, h'⟩ => ⟨h, h'⟩⟩

theorem braceDepth_of_plain {cs : List Char} (h : '{' ∉ cs) (h' : '}' ∉ cs) :
    braceDepth cs = 0 := by
  induction cs with
  | nil => rfl
  | cons c cs ih =>
    have ho : c ≠ '{' := fun e => h (e ▸ .head _)
    have hc : c ≠ '}' := fun e => h' (e ▸ .head _)
    have hw : braceWeight c = 0 := by rw [braceWeight, if_neg ho, if_neg hc]
    rw [braceDepth_cons, hw, ih (fun hm => h (.tail _ hm)) (fun hm => h' (.tail _ hm))]
    rfl

theorem isBalanced_of_plain {cs : List Char} (h : '{' ∉ cs) (h' : '}' ∉ cs) : IsBalanced cs := by
  refine ⟨braceDepth_of_plain h h', fun p hp => ?_⟩
  have hzero : braceDepth p = 0 :=
    braceDepth_of_plain (fun hm => h (hp.subset hm)) (fun hm => h' (hp.subset hm))
  exact hzero ▸ Int.le_refl 0

theorem IsBalanced.append {cs ds : List Char} (hcs : IsBalanced cs) (hds : IsBalanced ds) :
    IsBalanced (cs ++ ds) := by
  refine ⟨by rw [braceDepth_append, hcs.closes, hds.closes, Int.add_zero], fun p hp => ?_⟩
  obtain hp | ⟨q, rfl⟩ := List.prefix_or_prefix_of_prefix hp (List.prefix_append cs ds)
  · exact hcs.before p hp
  · rw [braceDepth_append, hcs.closes, Int.zero_add]
    exact hds.before q ((List.prefix_append_right_inj cs).1 hp)

theorem isClosed_braces {cs : List Char} : IsClosed ('{' :: (cs ++ ['}'])) ↔ IsBalanced cs := by
  have hw : braceDepth ['}'] = -1 := rfl
  rw [isClosed_cons, Returns, braceDepth_append, hw]
  constructor
  · rintro ⟨hzero, hpos⟩
    refine ⟨by omega, fun p hp => ?_⟩
    have hne : p ≠ cs ++ ['}'] := by
      rintro rfl
      have hlen := hp.length_le
      simp only [List.length_append, List.length_singleton] at hlen
      omega
    have := hpos p (hp.trans (List.prefix_append _ _)) hne
    omega
  · rintro ⟨hzero, hpos⟩
    refine ⟨by omega, fun p hp hne => ?_⟩
    obtain rfl | hp := List.prefix_concat_iff.1 hp
    · exact absurd rfl hne
    · have := hpos p hp
      omega
def nextDepth (d : Nat) (c : Char) : Nat :=
  if c = '{' then d + 1 else if c = '}' then d - 1 else d

theorem nextDepth_eq {d : Nat} {c : Char} (hd : 0 < d) (hc : ¬(c = '}' ∧ d ≤ 1)) :
    0 < nextDepth d c ∧ (nextDepth d c : Int) = d + braceWeight c := by
  unfold nextDepth braceWeight
  split
  · omega
  · split
    · have : ¬d ≤ 1 := fun h => hc ⟨‹_›, h⟩
      omega
    · omega

theorem block?_cons {d : Nat} {c : Char} {cs : List Char} :
    block? d (c :: cs) = if c = '}' ∧ d ≤ 1 then some ([c], cs)
      else (block? (nextDepth d c) cs).map fun (b, rest) => (c :: b, rest) := rfl

theorem block?_eq_some_iff {d : Nat} {cs b rest : List Char} (hd : 0 < d) :
    block? d cs = some (b, rest) ↔ cs = b ++ rest ∧ Returns d b := by
  induction cs generalizing d b rest with
  | nil =>
    have h : ¬Returns d [] := by
      rintro ⟨h, -⟩
      simp at h
      omega
    simp only [block?, reduceCtorEq, List.nil_eq, List.append_eq_nil_iff, false_iff, not_and]
    rintro ⟨rfl, -⟩
    exact h
  | cons c cs ih =>
    rw [block?_cons]
    by_cases hc : c = '}' ∧ d ≤ 1
    · obtain rfl : d = 1 := by omega
      obtain ⟨rfl, -⟩ := hc
      cases b with
      | nil => simp [Returns]
      | cons c' b =>
        have hw : ((1 : Nat) : Int) + braceWeight '}' = 0 := rfl
        simp only [Nat.le_refl, and_self, if_true, Option.some.injEq, Prod.mk.injEq,
          List.cons.injEq, List.cons_append, returns_cons]
        constructor
        · rintro ⟨⟨rfl, rfl⟩, rfl⟩
          exact ⟨⟨rfl, rfl⟩, Int.one_pos, hw ▸ returns_zero.2 rfl⟩
        · rintro ⟨⟨rfl, rfl⟩, -, h⟩
          obtain rfl := returns_zero.1 (hw ▸ h)
          exact ⟨⟨rfl, rfl⟩, rfl⟩
    · obtain ⟨hpos, hnext⟩ := nextDepth_eq hd hc
      have hd' : (0 : Int) < d := by omega
      cases b with
      | nil => simp [hc, Returns]; omega
      | cons c' b =>
        simp only [hc, if_false, Option.map_eq_some_iff, Prod.exists, ih hpos, hnext,
          Prod.mk.injEq, List.cons.injEq, List.cons_append, returns_cons]
        constructor
        · rintro ⟨_, _, ⟨rfl, h⟩, ⟨rfl, rfl⟩, rfl⟩
          exact ⟨⟨rfl, rfl⟩, hd', h⟩
        · rintro ⟨⟨rfl, rfl⟩, -, h⟩
          exact ⟨b, rest, ⟨rfl, h⟩, ⟨rfl, rfl⟩, rfl⟩

theorem block?_eq_none_iff {d : Nat} {cs : List Char} (hd : 0 < d) :
    block? d cs = none ↔ StaysOpen d cs := by
  induction cs generalizing d with
  | nil =>
    simp only [block?, StaysOpen, true_iff]
    intro p hp
    rw [List.prefix_nil.1 hp, braceDepth_nil]
    omega
  | cons c cs ih =>
    rw [block?_cons, staysOpen_cons]
    by_cases hc : c = '}' ∧ d ≤ 1
    · have hw : ¬StaysOpen (d + braceWeight c) cs := by
        intro h
        have hpos := h [] List.nil_prefix
        have hclose : braceWeight c = -1 := by rw [hc.1]; rfl
        rw [hclose, braceDepth_nil] at hpos
        omega
      rw [if_pos hc]
      exact iff_of_false (Option.some_ne_none _) (fun h => hw h.2)
    · obtain ⟨hpos, hnext⟩ := nextDepth_eq hd hc
      simp only [hc, if_false, Option.map_eq_none_iff, ih hpos, hnext]
      exact (and_iff_right (by omega)).symm

theorem IsClosed.exists_cons {b : List Char} (h : IsClosed b) :
    ∃ cs, b = '{' :: cs ∧ Returns 1 cs := by
  obtain ⟨cs, rfl⟩ := List.head?_eq_some_iff.1 h.opens
  exact ⟨cs, rfl, isClosed_cons.1 h⟩

theorem IsUnclosed.exists_cons {cs : List Char} (h : IsUnclosed cs) :
    ∃ ds, cs = '{' :: ds ∧ StaysOpen 1 ds := by
  obtain ⟨ds, rfl⟩ := List.head?_eq_some_iff.1 h.opens
  exact ⟨ds, rfl, isUnclosed_cons.1 h⟩

theorem block?_open (cs : List Char) :
    block? 0 ('{' :: cs) = (block? 1 cs).map fun (b, rest) => ('{' :: b, rest) := rfl

theorem block?_of_isClosed {b : List Char} (h : IsClosed b) (rest : List Char) :
    block? 0 (b ++ rest) = some (b, rest) := by
  obtain ⟨cs, rfl, hr⟩ := h.exists_cons
  rw [List.cons_append, block?_open, (block?_eq_some_iff Nat.one_pos).2 ⟨rfl, hr⟩]
  rfl

theorem block?_of_isUnclosed {cs : List Char} (h : IsUnclosed cs) : block? 0 cs = none := by
  obtain ⟨ds, rfl, hs⟩ := h.exists_cons
  rw [block?_open, (block?_eq_none_iff Nat.one_pos).2 hs]
  rfl

theorem unclosed_or_closed (cs : List Char) :
    IsUnclosed ('{' :: cs) ∨ ∃ b rest, IsClosed b ∧ '{' :: cs = b ++ rest := by
  cases h : block? 1 cs with
  | none => exact .inl (isUnclosed_cons.2 ((block?_eq_none_iff Nat.one_pos).1 h))
  | some x =>
    obtain ⟨b, rest⟩ := x
    obtain ⟨rfl, hr⟩ := (block?_eq_some_iff Nat.one_pos).1 h
    exact .inr ⟨'{' :: b, rest, isClosed_cons.2 hr, rfl⟩

@[elab_as_elim]
theorem blockInduction {P : List Char → Prop} (nil : P [])
    (char : ∀ c cs, c ≠ '{' → P cs → P (c :: cs)) (unclosed : ∀ cs, IsUnclosed cs → P cs)
    (closed : ∀ b rest, IsClosed b → P rest → P (b ++ rest)) (cs : List Char) : P cs := by
  match cs with
  | [] => exact nil
  | c :: cs =>
    by_cases hc : c = '{'
    · subst hc
      obtain h | ⟨b, rest, hb, heq⟩ := unclosed_or_closed cs
      · exact unclosed _ h
      · rw [heq]
        exact closed b rest hb (blockInduction nil char unclosed closed rest)
    · exact char c cs hc (blockInduction nil char unclosed closed cs)
termination_by cs.length
decreasing_by
  · have hlen := congrArg List.length heq
    obtain ⟨ds, rfl, -⟩ := hb.exists_cons
    simp at hlen ⊢
    omega
  · simp

theorem partsFrom_nil (lit : List Char) : partsFrom lit [] = literalPart lit.reverse := by
  rw [partsFrom]

theorem partsFrom_char {c : Char} (hc : c ≠ '{') (lit cs : List Char) :
    partsFrom lit (c :: cs) = partsFrom (c :: lit) cs := by
  rw [partsFrom, if_neg hc]

theorem partsFrom_unclosed {cs : List Char} (h : IsUnclosed cs) (lit : List Char) :
    partsFrom lit cs = [lit.reverse ++ cs] := by
  obtain ⟨ds, rfl, -⟩ := h.exists_cons
  rw [partsFrom, if_pos rfl]
  split
  · rfl
  · next hb => simp [block?_of_isUnclosed h] at hb

theorem partsFrom_closed {b : List Char} (h : IsClosed b) (lit rest : List Char) :
    partsFrom lit (b ++ rest) = literalPart lit.reverse ++ b :: partsFrom [] rest := by
  obtain ⟨ds, rfl, -⟩ := h.exists_cons
  have hblock := block?_of_isClosed h rest
  rw [List.cons_append] at hblock
  rw [List.cons_append, partsFrom, if_pos rfl]
  split
  · next hb => simp [hblock] at hb
  · next hb =>
    rw [hblock] at hb
    cases hb
    rfl

theorem partsFrom_of_isClosed {b : List Char} (h : IsClosed b) : partsFrom [] b = [b] := by
  have hparts := partsFrom_closed h [] []
  rwa [List.append_nil, partsFrom_nil] at hparts

theorem partsFrom_plain {cs : List Char} (h : '{' ∉ cs) (lit rest : List Char) :
    partsFrom lit (cs ++ rest) = partsFrom (cs.reverse ++ lit) rest := by
  induction cs generalizing lit with
  | nil => rfl
  | cons c cs ih =>
    have hc : c ≠ '{' := fun e => h (e ▸ .head _)
    rw [List.cons_append, partsFrom_char hc, ih (fun hm => h (.tail _ hm))]
    simp

theorem flatten_partsFrom (lit cs : List Char) :
    (partsFrom lit cs).flatten = lit.reverse ++ cs := by
  induction cs using blockInduction generalizing lit with
  | nil =>
    rw [partsFrom_nil, List.append_nil]
    cases lit.reverse <;> simp [literalPart]
  | char c cs hc ih => rw [partsFrom_char hc, ih, List.reverse_cons, List.append_assoc]; rfl
  | unclosed cs h => rw [partsFrom_unclosed h, List.flatten_singleton]
  | closed b rest h ih =>
    rw [partsFrom_closed h, List.flatten_append, List.flatten_cons, ih]
    cases lit.reverse <;> simp [literalPart]

end Allowlist.Specifier
