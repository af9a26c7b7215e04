import Allowlist.Value

namespace Allowlist.Log

structure Block where
  group : String
  correlation : String
  deriving DecidableEq

structure Variables where
  group : Option String
  correlation : Option String
  bound : Option Block
  deriving DecidableEq

def Variables.unset : Variables := ⟨none, none, none⟩

def Variables.set (group correlation : String) : Variables :=
  ⟨some group, some correlation, some ⟨group, correlation⟩⟩

/-- The variables, what they held before each of the open blocks, innermost first, and the number of
ids issued so far. -/
structure Context where
  now : Variables
  kept : List Variables
  issued : Nat

def given? (correlation : Option String) : Option String := correlation.filter (· ≠ "")

namespace Context

def empty : Context := ⟨.unset, [], 0⟩

def current? (c : Context) : Option Block := do
  return ⟨← c.now.group, ← c.now.correlation⟩

def opened (group correlation : String) (c : Context) : Context :=
  { c with now := .set group correlation, kept := c.now :: c.kept }

def enter (fresh : Nat → String) (group : String) (correlation : Option String) (c : Context) :
    Context :=
  match (given? correlation).or (given? c.now.correlation) with
  | some id => c.opened group id
  | none => { c.opened group (fresh c.issued) with issued := c.issued + 1 }

def exit (c : Context) : Context :=
  match c.kept with
  | [] => c
  | before :: kept => { c with now := before, kept }

@[simp] theorem now_enter (fresh : Nat → String) (group : String)
    (correlation : Option String) (c : Context) :
    (c.enter fresh group correlation).now = .set group
      (((given? correlation).or (given? c.now.correlation)).getD (fresh c.issued)) := by
  rw [enter]
  cases (given? correlation).or (given? c.now.correlation) <;> rfl

@[simp] theorem kept_enter (fresh : Nat → String) (group : String) (correlation : Option String)
    (c : Context) : (c.enter fresh group correlation).kept = c.now :: c.kept := by
  rw [enter]
  cases (given? correlation).or (given? c.now.correlation) <;> rfl

@[simp] theorem issued_enter (fresh : Nat → String) (group : String) (correlation : Option String)
    (c : Context) : (c.enter fresh group correlation).issued =
      c.issued + if ((given? correlation).or (given? c.now.correlation)).isNone then 1 else 0 := by
  rw [enter]
  cases (given? correlation).or (given? c.now.correlation) <;> rfl

@[simp] theorem issued_exit (c : Context) : c.exit.issued = c.issued := by
  rw [exit]
  cases c.kept <;> rfl

def bound : Option Block → Entries
  | none => []
  | some b => [(.text "correlation_id", .text b.correlation), (.text "group_id", .text b.group)]

end Context

end Allowlist.Log
