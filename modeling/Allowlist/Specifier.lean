import Allowlist.Text.Pieces

/-!
Specifiers: texts that name rules, or parts of one. A part in braces, such as `{enum:a|b}`, stands
for what it describes; the text around stands for itself.
-/

namespace Allowlist.Specifier

/-- Cuts off the characters up to the brace that closes the first one. `depth` braces are open. -/
def block? (depth : Nat) : List Char → Option (List Char × List Char)
  | [] => none
  | c :: cs =>
    if c = '}' ∧ depth ≤ 1 then some ([c], cs)
    else
      let d := if c = '{' then depth + 1 else if c = '}' then depth - 1 else depth
      (block? d cs).map fun (b, rest) => (c :: b, rest)

theorem block?_append {depth : Nat} {cs b rest : List Char}
    (h : block? depth cs = some (b, rest)) : b ++ rest = cs := by
  induction cs generalizing depth b with
  | nil => simp [block?] at h
  | cons c cs ih =>
    simp only [block?] at h
    split at h
    · simp only [Option.some.injEq, Prod.mk.injEq] at h
      simp [← h.1, ← h.2]
    · simp only [Option.map_eq_some_iff, Prod.exists, Prod.mk.injEq] at h
      obtain ⟨b', rest', h, rfl, rfl⟩ := h
      simp [ih h]

theorem block?_ne_nil {depth : Nat} {cs b rest : List Char}
    (h : block? depth cs = some (b, rest)) : b ≠ [] := by
  cases cs with
  | nil => simp [block?] at h
  | cons c cs =>
    simp only [block?] at h
    split at h <;> simp at h <;> grind

theorem block?_length {depth : Nat} {cs b rest : List Char}
    (h : block? depth cs = some (b, rest)) : rest.length < cs.length := by
  have : b.length ≠ 0 := by simpa using block?_ne_nil h
  rw [← block?_append h, List.length_append]
  omega

def literalPart (cs : List Char) : List (List Char) := if cs.isEmpty then [] else [cs]

/-- The parts of a text that follows the literal text `lit`, which is reversed. From a brace that is
never closed on, all is literal. -/
def partsFrom (lit : List Char) : List Char → List (List Char)
  | [] => literalPart lit.reverse
  | c :: cs =>
    if c = '{' then
      match h : block? 0 (c :: cs) with
      | none => [lit.reverse ++ c :: cs]
      | some (b, rest) =>
        have := block?_length h
        literalPart lit.reverse ++ b :: partsFrom [] rest
    else partsFrom (c :: lit) cs
termination_by cs => cs.length
decreasing_by
  · assumption
  · exact Nat.lt_succ_self _

def parts (s : String) : List String := (partsFrom [] s.toList).map String.ofList

inductive Source
  | inline
  | named
  deriving DecidableEq

structure Part where
  kind : String
  source : Source
  body : String
  deriving DecidableEq

def isKindChar (c : Char) : Bool := ('a' ≤ c && c ≤ 'z') || c = '_'

def source? : Char → Option Source
  | ':' => some .inline
  | '#' => some .named
  | _ => none

def beforeBrace? (cs : List Char) : Option (List Char) :=
  match cs.reverse with
  | '}' :: rest => some rest.reverse
  | '\n' :: '}' :: rest => some rest.reverse
  | _ => none

def read? (s : String) : Option Part :=
  match s.toList with
  | '{' :: cs =>
    match cs.takeWhile isKindChar, cs.dropWhile isKindChar with
    | k :: ks, c :: rest => do
      let source ← source? c
      let body ← beforeBrace? rest
      return ⟨String.ofList (k :: ks), source, String.ofList body⟩
    | _, _ => none
  | _ => none

end Allowlist.Specifier
