import Allowlist.Value
import Allowlist.Binary64.Decimal
import Allowlist.Text.Numeral
import Allowlist.Text.Quoted

namespace Allowlist

structure Failure where
  reason : String
  deriving DecidableEq

def Text.ofInteger (n : Int) : Except Failure String :=
  if (toString n.natAbs).length ≤ maxDigits then .ok (toString n) else .error ⟨digitLimit ""⟩

theorem Text.length_toString_le_iff {n : Nat} :
    (toString n).length ≤ maxDigits ↔ n < Nat.pow 10 maxDigits := by
  rw [Nat.pow_eq, ← Nat.length_toDigits_le_iff (by decide) (by decide)]
  change (String.ofList (Nat.toDigits 10 n)).length ≤ _ ↔ _
  rw [String.length_ofList]

theorem Text.ofInteger_eq_error_iff {n : Int} {e : Failure} : ofInteger n = .error e ↔
    maxDigits < (toString n.natAbs).length ∧ e = ⟨digitLimit ""⟩ := by
  unfold ofInteger
  split
  · rename_i short
    exact ⟨nofun, fun h => absurd h.1 (Nat.not_lt.2 short)⟩
  · rename_i long
    rw [Except.error.injEq, eq_comm]
    exact (and_iff_right (Nat.not_le.1 long)).symm

def boolWord (b : Bool) : String := if b then "True" else "False"

def Scalar.literal : Scalar → Except Failure String
  | .bool b => .ok (boolWord b)
  | .int n => Text.ofInteger n
  | .float x => .ok x.toText
  | .text s => .ok (Text.quote s)
  | .bytes bs => .ok (Text.quoteBytes bs)

-- a pair of parentheses needs a comma to hold one element
def tupleLiteral : List String → String
  | [s] => "(" ++ s ++ ",)"
  | ss => "(" ++ Text.join ", " ss ++ ")"

def listLiteral (ss : List String) : String := "[" ++ Text.join ", " ss ++ "]"

def mapLiteral (es : List (String × String)) : String :=
  "\x7b" ++ Text.join ", " (es.map fun (k, v) => k ++ ": " ++ v) ++ "\x7d"

mutual
def Key.literal : Key → Except Failure String
  | .null => .ok "None"
  | .leaf s => s.literal
  | .tuple ks => (Key.literals ks).map tupleLiteral

def Key.literals : List Key → Except Failure (List String)
  | [] => .ok []
  | k :: ks => do return (← k.literal) :: (← Key.literals ks)
end

mutual
def Value.literal : Value → Except Failure String
  | .null => .ok "None"
  | .leaf s => s.literal
  | .list vs => (Value.literals vs).map listLiteral
  | .tuple vs => (Value.literals vs).map tupleLiteral
  | .map es => (Value.entryLiterals es).map mapLiteral

def Value.literals : List Value → Except Failure (List String)
  | [] => .ok []
  | v :: vs => do return (← v.literal) :: (← Value.literals vs)

def Value.entryLiterals : Entries → Except Failure (List (String × String))
  | [] => .ok []
  | (k, v) :: es => do return (← k.literal, ← v.literal) :: (← Value.entryLiterals es)
end

def Value.display : Value → Except Failure String
  | .text s => .ok s
  | v => v.literal

def Scalar.ruleText : Scalar → Except Failure String
  | .bool b => .ok (if b then "true" else "false")
  | .text s => .ok s
  | s => s.literal

theorem Scalar.ruleText_eq_error_iff {s : Scalar} {e : Failure} : s.ruleText = .error e ↔
    ∃ n, s = .int n ∧ Text.maxDigits < (toString n.natAbs).length ∧
      e = ⟨Text.digitLimit ""⟩ := by
  cases s <;> simp [ruleText, literal, Text.ofInteger_eq_error_iff]

theorem Scalar.ruleText_of_long {n : Nat} (h : Nat.pow 10 Text.maxDigits ≤ n) :
    (int n).ruleText = .error ⟨Text.digitLimit ""⟩ :=
  ruleText_eq_error_iff.2
    ⟨_, rfl, Nat.not_le.1 (mt Text.length_toString_le_iff.1 (Nat.not_lt.2 h)), rfl⟩

def longNumber : Int := .ofNat (Nat.pow 10 Text.maxDigits)

theorem ruleText_longNumber :
    (Scalar.int longNumber).ruleText = .error ⟨Text.digitLimit ""⟩ :=
  Scalar.ruleText_of_long (Nat.le_refl _)

def Value.ruleText : Value → Except Failure String
  | .leaf s => s.ruleText
  | v => v.display

def Scalar.kind : Scalar → String
  | .bool _ => "bool"
  | .int _ => "int"
  | .float _ => "float"
  | .text _ => "str"
  | .bytes _ => "bytes"

end Allowlist
