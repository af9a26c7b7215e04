import Allowlist.Proofs.Pattern.Fragment
import Mathlib.Computability.Language

/-!
Languages of patterns. A pattern denotes a language if a match of it can go on just where a match
can that passes over a text of the language first. Sequences denote products and choices denote sums
of languages, in whatever order the matcher tries them, so that an expression made of fragments
denotes the product of what they stand for.
-/

namespace Allowlist.Pattern

def State.past : List Char → State → State
  | [], σ => σ
  | c :: cs, σ =>
    State.past cs { σ with cursor :=
      ⟨c :: σ.cursor.before, σ.cursor.after.tail, σ.cursor.position + 1⟩ }

theorem State.past_append (as bs : List Char) (σ : State) :
    σ.past (as ++ bs) = (σ.past as).past bs := by
  induction as generalizing σ with
  | nil => rfl
  | cons a as ih => exact ih _

theorem State.after_past {as rest : List Char} {σ : State} (h : σ.cursor.after = as ++ rest) :
    (σ.past as).cursor.after = rest := by
  induction as generalizing σ with
  | nil => exact h
  | cons a as ih =>
    apply ih
    simp [h]

theorem State.take_eq_some_iff {m : Mode} {s : CharSet} {σ τ : State} :
    σ.take m s = some τ ↔
      ∃ c rest, σ.cursor.after = c :: rest ∧ s.has m c = true ∧ τ = σ.past [c] := by
  obtain ⟨⟨before, after, i⟩, entered, left⟩ := σ
  cases after with
  | nil => simp [take, Cursor.next]
  | cons c rest => simp [take, Cursor.next, past, @eq_comm _ τ]

def Continues (L : Language Char) (σ : State) (k : Continuation) : Prop :=
  ∃ cs ∈ L, ∃ rest, σ.cursor.after = cs ++ rest ∧ (k (σ.past cs)).isSome = true

def Denotes (p : Pattern) (L : Language Char) : Prop :=
  ∀ σ k, (p.run σ k).isSome = true ↔ Continues L σ k

theorem continues_one {σ : State} {k : Continuation} :
    Continues 1 σ k ↔ (k σ).isSome = true := by
  simp [Continues, Language.mem_one, State.past]

theorem continues_add {K L : Language Char} {σ : State} {k : Continuation} :
    Continues (K + L) σ k ↔ Continues K σ k ∨ Continues L σ k := by
  simp only [Continues, Language.mem_add, or_and_right, exists_or]

theorem continues_mul {K L : Language Char} {σ : State} {k : Continuation} :
    Continues (K * L) σ k ↔
      ∃ as ∈ K, ∃ rest, σ.cursor.after = as ++ rest ∧ Continues L (σ.past as) k := by
  constructor
  · rintro ⟨cs, hcs, rest, h, hk⟩
    obtain ⟨as, ha, bs, hb, rfl⟩ := Language.mem_mul.1 hcs
    rw [List.append_assoc] at h
    rw [State.past_append] at hk
    exact ⟨as, ha, bs ++ rest, h, bs, hb, rest, State.after_past h, hk⟩
  · rintro ⟨as, ha, tail, h, bs, hb, rest, hrest, hk⟩
    rw [State.after_past h] at hrest
    refine ⟨as ++ bs, Language.append_mem_mul ha hb, rest, ?_, ?_⟩
    · rw [h, hrest, List.append_assoc]
    · rwa [State.past_append]

theorem denotes_empty : Denotes .empty 1 := fun _ _ => continues_one.symm

theorem denotes_char {m : Mode} {s : CharSet} :
    Denotes (.char m s) {cs | ∃ c, s.has m c = true ∧ cs = [c]} := by
  intro σ k
  simp only [run, Option.isSome_bind, Option.any_eq_true, State.take_eq_some_iff]
  constructor
  · rintro ⟨_, ⟨c, rest, h, hc, rfl⟩, hk⟩
    exact ⟨[c], ⟨c, hc, rfl⟩, rest, h, hk⟩
  · rintro ⟨_, ⟨c, hc, rfl⟩, rest, h, hk⟩
    exact ⟨_, ⟨c, rest, h, hc, rfl⟩, hk⟩

theorem Denotes.cat {p q : Pattern} {K L : Language Char} (hp : Denotes p K) (hq : Denotes q L) :
    Denotes (.cat p q) (K * L) := by
  intro σ k
  rw [run, hp, continues_mul]
  simp only [Continues, hq _ k]

theorem Denotes.alt {p q : Pattern} {K L : Language Char} (hp : Denotes p K) (hq : Denotes q L) :
    Denotes (.alt p q) (K + L) := by
  intro σ k
  rw [continues_add, ← hp, ← hq, run]
  cases p.run σ k <;> simp

theorem denotes_concat {ps : List Pattern} {Ls : List (Language Char)}
    (h : List.Forall₂ Denotes ps Ls) : Denotes (concat ps) Ls.prod := by
  induction h with
  | nil => exact denotes_empty
  | @cons p L ps Ls hp hps ih =>
    rw [List.prod_cons]
    cases hps with
    | nil => rwa [concat, List.prod_nil, mul_one]
    | cons => exact hp.cat ih

theorem denotes_choice {p : Pattern} {L : Language Char} {ps : List Pattern}
    {Ls : List (Language Char)} (hp : Denotes p L) (h : List.Forall₂ Denotes ps Ls) :
    Denotes (choice p ps) (L + Ls.sum) := by
  induction h generalizing p L with
  | nil => rwa [choice, List.sum_nil, add_zero]
  | cons hq _ ih =>
    rw [List.sum_cons]
    exact hp.alt (ih hq)

theorem Denotes.matchesAll_iff {p : Pattern} {L : Language Char} (h : Denotes p L)
    (cs : List Char) : p.matchesAll cs = true ↔ cs ∈ L := by
  rw [matchesAll, h]
  constructor
  · rintro ⟨as, ha, rest, hrest, hend⟩
    have hafter : ((State.start cs).past as).cursor.after = rest := State.after_past hrest
    have hnil : rest = [] := by simpa [atEnd, hafter] using hend
    have hcs : cs = as ++ rest := hrest
    rwa [hcs, hnil, List.append_nil]
  · intro hcs
    have hafter : ((State.start cs).past cs).cursor.after = [] :=
      State.after_past (List.append_nil cs).symm
    exact ⟨cs, hcs, [], (List.append_nil cs).symm, by simp [atEnd, hafter]⟩

theorem mem_single {as cs : List Char} : as ∈ ({cs} : Language Char) ↔ as = cs := Iff.rfl

def ofTexts (ss : List String) : Language Char := (ss.map fun s => {s.toList}).sum

theorem mem_ofTexts {ss : List String} {cs : List Char} :
    cs ∈ ofTexts ss ↔ ∃ s ∈ ss, s.toList = cs := by
  induction ss with
  | nil => simp [ofTexts, Language.notMem_zero]
  | cons s ss ih =>
    rw [ofTexts, List.map_cons, List.sum_cons, Language.mem_add, ← ofTexts, ih, mem_single]
    simp [eq_comm]

section Fragments

variable {m : Mode}

theorem denotes_literal (hm : m.ignoreCase = false) (c : Char) :
    Denotes (.char m (.char c)) {[c]} := by
  have single : ({[c]} : Language Char) =
      {cs | ∃ d, (CharSet.char c).has m d = true ∧ cs = [d]} := by
    ext cs
    change cs = [c] ↔ ∃ d, (CharSet.char c).has m d = true ∧ cs = [d]
    simp [CharSet.has_char hm]
  rw [single]
  exact denotes_char

theorem prod_singletons (cs : List Char) :
    (cs.map fun c => ({[c]} : Language Char)).prod = {cs} := by
  induction cs with
  | nil => rfl
  | cons c cs ih =>
    rw [List.map_cons, List.prod_cons, ih]
    ext as
    simp [Language.mem_mul, mem_single, eq_comm]

theorem denotes_literals (hm : m.ignoreCase = false) (cs : List Char) :
    List.Forall₂ Denotes (cs.map fun c => .char m (.char c)) (cs.map fun c => {[c]}) := by
  rw [List.forall₂_map_left_iff, List.forall₂_map_right_iff, List.forall₂_same]
  exact fun c _ => denotes_literal hm c

theorem denotes_exactly (hm : m.ignoreCase = false) (s : String) :
    Denotes (exactly m s) {s.toList} := by
  have h := denotes_concat (denotes_literals hm s.toList)
  rwa [prod_singletons] at h

theorem denotes_anyOf (hm : m.ignoreCase = false) {ss : List String} (hs : ss ≠ []) :
    Denotes (anyOf (ss.map (exactly m))) (ofTexts ss) := by
  cases ss with
  | nil => exact absurd rfl hs
  | cons s ss =>
    refine denotes_choice (denotes_exactly hm s) ?_
    rw [List.forall₂_map_left_iff, List.forall₂_map_right_iff, List.forall₂_same]
    exact fun t _ => denotes_exactly hm t

namespace Fragment

def texts : Fragment → List String
  | text s => [s]
  | choice ss => ss

theorem exists_denotes_items (hm : m.ignoreCase = false) {f : Fragment} (hf : f.texts ≠ []) :
    ∃ Ls, List.Forall₂ Denotes ((f.items m).reverse.map (·.2)) Ls ∧ Ls.prod = ofTexts f.texts := by
  cases f with
  | text s =>
    refine ⟨s.toList.map fun c => {[c]}, ?_, ?_⟩
    · simpa [items, textItems, Function.comp_def] using denotes_literals hm s.toList
    · simp [prod_singletons, texts, ofTexts]
  | choice ss => exact ⟨[ofTexts ss], .cons (denotes_anyOf hm hf) .nil, List.prod_singleton⟩

theorem exists_denotes_all (hm : m.ignoreCase = false) {fs : List Fragment}
    (hfs : ∀ f ∈ fs, f.texts ≠ []) :
    ∃ Ls, List.Forall₂ Denotes ((fs.reverse.flatMap (items m)).reverse.map (·.2)) Ls ∧
      Ls.prod = (fs.map fun f => ofTexts f.texts).prod := by
  induction fs with
  | nil => exact ⟨[], .nil, rfl⟩
  | cons f fs ih =>
    rw [List.forall_mem_cons] at hfs
    obtain ⟨Ks, hKs, hprod⟩ := exists_denotes_items hm hfs.1
    obtain ⟨Ls, hLs, hprods⟩ := ih hfs.2
    refine ⟨Ks ++ Ls, ?_, ?_⟩
    · simpa using List.rel_append hKs hLs
    · rw [List.prod_append, hprod, hprods, List.map_cons, List.prod_cons]

theorem exists_ofText_denotes (g : Glossary) {fs : List Fragment} {e : String}
    (he : Token.ofChars e.toList = fs.flatMap tokens) (hfs : ∀ f ∈ fs, f.texts ≠ []) :
    ∃ p, ofText g e = .ok p ∧ Denotes p (fs.map fun f => ofTexts f.texts).prod := by
  obtain ⟨Ls, hLs, hprod⟩ := exists_denotes_all (m := .initial) rfl hfs
  have hreads := reads_all fs (.start g) []
  rw [List.append_nil, ← he] at hreads
  refine ⟨_, ofText_ok_iff.2 ⟨_, hreads, rfl⟩, ?_⟩
  have hbody : ((Reader.start g).add (fs.reverse.flatMap (items .initial))).level.body =
      concat ((fs.reverse.flatMap (items .initial)).reverse.map (·.2)) := by
    simp [Level.body_eq, Reader.add, Reader.start, Level.sequence, anyOf, Pattern.choice]
  rw [← hprod]
  exact hbody ▸ denotes_concat hLs

end Fragment

end Fragments

end Allowlist.Pattern
