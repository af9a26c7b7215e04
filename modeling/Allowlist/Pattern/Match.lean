import Allowlist.Pattern

/-!
Matching by backtracking. `run p s k` takes a first part of the text that `p` matches and goes on
with `k`; where `k` fails, `run` tries the next way to match `p`, in order of preference, with the
groups as they were.
-/

namespace Allowlist.Pattern

structure Cursor where
  before : List Char
  after : List Char
  position : Nat
  deriving DecidableEq

structure State where
  cursor : Cursor
  entered : List (Nat × Cursor)
  left : List (Nat × Nat)
  deriving DecidableEq

abbrev Continuation := State → Option State

namespace Cursor

def start (cs : List Char) : Cursor := ⟨[], cs, 0⟩

def next : Cursor → Option (Char × Cursor)
  | ⟨_, [], _⟩ => none
  | ⟨before, c :: after, i⟩ => some (c, ⟨c :: before, after, i + 1⟩)

def back : Nat → Cursor → Option Cursor
  | 0, c => some c
  | n + 1, ⟨c :: before, after, i⟩ => back n ⟨before, c :: after, i - 1⟩
  | _ + 1, ⟨[], _, _⟩ => none

def isWord (ascii : Bool) : List Char → Bool
  | [] => false
  | c :: _ => CharClass.word.has ascii c

def atBoundary (ascii : Bool) (c : Cursor) (boundary : Bool) : Bool :=
  !(c.before.isEmpty && c.after.isEmpty) &&
    (isWord ascii c.before != isWord ascii c.after) == boundary

def holds (m : Mode) (c : Cursor) : Anchor → Bool
  | .lineStart => c.before.isEmpty || (m.multiline && c.before.head? == some '\n')
  | .lineEnd => c.after.isEmpty || c.after == ['\n'] || (m.multiline && c.after.head? == some '\n')
  | .textStart => c.before.isEmpty
  | .textEnd => c.after.isEmpty
  | .boundary => c.atBoundary m.ascii true
  | .interior => c.atBoundary m.ascii false

end Cursor

namespace State

def start (cs : List Char) : State := ⟨.start cs, [], []⟩

def take (m : Mode) (s : CharSet) (σ : State) : Option State :=
  match σ.cursor.next with
  | some (c, next) => if s.has m c then some { σ with cursor := next } else none
  | none => none

def enter (n : Nat) (σ : State) : State := { σ with entered := (n, σ.cursor) :: σ.entered }

def leave (n : Nat) (σ : State) : State := { σ with left := (n, σ.cursor.position) :: σ.left }

def group? (n : Nat) (σ : State) : Option (List Char) :=
  match σ.entered.lookup n, σ.left.lookup n with
  | some c, some i => if c.position ≤ i then some (c.after.take (i - c.position)) else none
  | _, _ => none

def takeAll (m : Mode) : List Char → State → Option State
  | [], σ => some σ
  | c :: cs, σ =>
    match σ.cursor.next with
    | some (d, next) =>
      if m.fold c.toNat = m.fold d.toNat then takeAll m cs { σ with cursor := next } else none
    | none => none

end State

abbrev Matcher := State → Continuation → Option State

def rounds (body : Matcher) : Nat → Matcher
  | 0, σ, k => k σ
  | n + 1, σ, k => body σ fun τ => rounds body n τ k

/-- Up to `n` rounds, rather more than less. A round that takes nothing is the last one. -/
def greedily (body : Matcher) : Nat → Matcher
  | 0, σ, k => k σ
  | n + 1, σ, k =>
    match body σ fun τ =>
      if τ.cursor.position = σ.cursor.position then k τ else greedily body n τ k with
    | some r => some r
    | none => k σ

def lazily (body : Matcher) : Nat → Matcher
  | 0, σ, k => k σ
  | n + 1, σ, k =>
    match k σ with
    | some r => some r
    | none => body σ fun τ =>
      if τ.cursor.position = σ.cursor.position then k τ else lazily body n τ k

def firmRounds (body : Matcher) : Nat → State → Option State
  | 0, σ => some σ
  | n + 1, σ => (body σ some).bind (firmRounds body n)

def firmly (body : Matcher) : Nat → State → State
  | 0, σ => σ
  | n + 1, σ =>
    match body σ some with
    | some τ => if τ.cursor.position = σ.cursor.position then τ else firmly body n τ
    | none => σ

/-- How many rounds may follow the first `least`: no more than there are characters, and one that
takes nothing. -/
def room (least : Nat) (most : Option Nat) (σ : State) : Nat :=
  match most with
  | none => σ.cursor.after.length + 1
  | some n => min (n - least) (σ.cursor.after.length + 1)

def run : Pattern → Matcher
  | empty, σ, k => k σ
  | char m s, σ, k => (σ.take m s).bind k
  | anchor m a, σ, k => if σ.cursor.holds m a then k σ else none
  | cat p q, σ, k => p.run σ fun τ => q.run τ k
  | alt p q, σ, k =>
    match p.run σ k with
    | some r => some r
    | none => q.run σ k
  | group n p, σ, k => p.run (σ.enter n) fun τ => k (τ.leave n)
  | loop .greedy least most p, σ, k =>
    rounds p.run least σ fun τ => greedily p.run (room least most τ) τ k
  | loop .lazy least most p, σ, k =>
    rounds p.run least σ fun τ => lazily p.run (room least most τ) τ k
  | loop .possessive least most p, σ, k =>
    (firmRounds p.run least σ).bind fun τ => k (firmly p.run (room least most τ) τ)
  | backref m n, σ, k => ((σ.group? n).bind fun cs => State.takeAll m cs σ).bind k
  | atomic p, σ, k => (p.run σ some).bind k
  | look behind negated p, σ, k =>
    let seen := ((behind.elim (some σ.cursor) fun n => σ.cursor.back n).bind fun c =>
      p.run { σ with cursor := c } some)
    if negated then if seen.isNone then k σ else none
    else seen.bind fun τ => k { τ with cursor := σ.cursor }
  | cond n yes no, σ, k => if (σ.group? n).isSome then yes.run σ k else no.run σ k

def atEnd (σ : State) : Option State := if σ.cursor.after.isEmpty then some σ else none

def matchesAll (p : Pattern) (cs : List Char) : Bool := (p.run (.start cs) atEnd).isSome

end Allowlist.Pattern
