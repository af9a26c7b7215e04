import Allowlist.Text.Blank
import Allowlist.Text.Case
import Allowlist.Text.Digit
import Allowlist.Text.Word

namespace Allowlist

structure Mode where
  ignoreCase : Bool
  ascii : Bool
  multiline : Bool
  dotAll : Bool
  verbose : Bool
  deriving DecidableEq

def Mode.initial : Mode := ⟨false, false, false, false, false⟩

def Mode.variants (m : Mode) (n : Nat) : List Nat :=
  if m.ignoreCase then if m.ascii then Text.asciiCaseVariants n else Text.caseVariants n
  else [n]

def Mode.fold (m : Mode) (n : Nat) : Nat :=
  if m.ignoreCase then if m.ascii then Text.asciiLowerCode n else Text.lowerCode n
  else n

inductive CharClass
  | digit
  | space
  | word
  deriving DecidableEq

def CharClass.has (ascii : Bool) : CharClass → Char → Bool
  | digit, c => if ascii then c.isDigit else Text.isDigit c
  | space, c => if ascii then Text.isAsciiBlank c else Text.isBlank c
  | word, c => if ascii then Text.isAsciiWord c else Text.isWord c

structure CharSet where
  ranges : List (Nat × Nat)
  classes : List (CharClass × Bool)
  negated : Bool
  deriving DecidableEq

namespace CharSet

def code (n : Nat) : CharSet := ⟨[(n, n)], [], false⟩

def char (c : Char) : CharSet := code c.toNat

def ofClass (k : CharClass) (complement : Bool) : CharSet := ⟨[], [(k, complement)], false⟩

def all : CharSet := ⟨[], [], true⟩

def notNewline : CharSet := ⟨[(10, 10)], [], true⟩

def addRange (s : CharSet) (a b : Nat) : CharSet := { s with ranges := s.ranges ++ [(a, b)] }

def addClass (s : CharSet) (k : CharClass) (complement : Bool) : CharSet :=
  { s with classes := s.classes ++ [(k, complement)] }

def has (m : Mode) (s : CharSet) (c : Char) : Bool :=
  let vs := m.variants c.toNat
  let low := Char.ofNat (m.fold c.toNat)
  (s.ranges.any (fun (a, b) => vs.any fun v => a ≤ v && v ≤ b) ||
    s.classes.any fun (k, complement) => k.has m.ascii low != complement) != s.negated

theorem has_char {m : Mode} (h : m.ignoreCase = false) (c d : Char) :
    (char c).has m d = decide (c = d) := by
  have : (c.toNat = d.toNat) ↔ c = d := Char.toNat_inj
  by_cases e : c = d
  · subst e; simp [has, char, code, Mode.variants, h]
  · have : c.toNat ≠ d.toNat := fun x => e (this.1 x)
    simp [has, char, code, Mode.variants, h, e]
    omega

end CharSet

inductive Anchor
  | lineStart
  | lineEnd
  | textStart
  | textEnd
  | boundary
  | interior
  deriving DecidableEq

inductive Greed
  | greedy
  | lazy
  | possessive
  deriving DecidableEq

/-- `look behind negated p` looks back over `behind` characters, or ahead. -/
inductive Pattern
  | empty
  | char (m : Mode) (s : CharSet)
  | anchor (m : Mode) (a : Anchor)
  | cat (p q : Pattern)
  | alt (p q : Pattern)
  | group (n : Nat) (p : Pattern)
  | loop (g : Greed) (least : Nat) (most : Option Nat) (p : Pattern)
  | backref (m : Mode) (n : Nat)
  | atomic (p : Pattern)
  | look (behind : Option Nat) (negated : Bool) (p : Pattern)
  | cond (n : Nat) (yes no : Pattern)
  deriving DecidableEq

namespace Pattern

def concat : List Pattern → Pattern
  | [] => empty
  | [p] => p
  | p :: ps => cat p (concat ps)

def choice : Pattern → List Pattern → Pattern
  | p, [] => p
  | p, q :: qs => alt p (choice q qs)

/-- How many characters a pattern takes; `most = none` if there is no bound. -/
structure Width where
  least : Nat
  most : Option Nat
  deriving DecidableEq

def Width.none : Width := ⟨0, some 0⟩

def Width.add (a b : Width) : Width :=
  ⟨a.least + b.least, a.most.bind fun x => b.most.map (x + ·)⟩

def Width.either (a b : Width) : Width :=
  ⟨min a.least b.least, a.most.bind fun x => b.most.map (max x ·)⟩

def Width.times (least : Nat) (most : Option Nat) (w : Width) : Width :=
  ⟨least * w.least,
    if most = some 0 || w.most = some 0 then some 0
    else most.bind fun n => w.most.map (n * ·)⟩

def width (groups : List (Nat × Width)) : Pattern → Width
  | empty => .none
  | char _ _ => ⟨1, some 1⟩
  | anchor _ _ => .none
  | cat p q => (p.width groups).add (q.width groups)
  | alt p q => (p.width groups).either (q.width groups)
  | group _ p => p.width groups
  | loop _ least most p => (p.width groups).times least most
  | backref _ n => (groups.lookup n).getD .none
  | atomic p => p.width groups
  | look _ _ _ => .none
  | cond _ p q => (p.width groups).either (q.width groups)

end Pattern

end Allowlist
