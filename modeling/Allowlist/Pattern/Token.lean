import Allowlist.Text.Numeral

namespace Allowlist.Pattern

/-- Characters, and characters after a backslash. A lone backslash ends the text. -/
inductive Token
  | char (c : Char)
  | escaped (c : Char)
  | lone
  deriving DecidableEq

/-- What stops the compiler on a text that need not be malformed: a number that is too large or that
has too many digits, or the rules for ASCII together with those for all characters. -/
inductive Mishap
  | overflow
  | digits (n : Nat)
  | flags
  deriving DecidableEq

def Mishap.reason? : Mishap → Option String
  | overflow => none
  | digits n => some (Text.tooManyDigits n)
  | flags => some "ASCII and UNICODE flags are incompatible"

inductive Error
  | malformed
  | mishap (m : Mishap)
  deriving DecidableEq

abbrev Glossary := String → Option Char

/-- The reader is one token ahead, so a lone backslash comes first. -/
def Error.ahead (m : Mishap) (rest : List Token) : Error :=
  if rest = [.lone] then .malformed else .mishap m

namespace Token

def ofChars : List Char → List Token
  | [] => []
  | ['\\'] => [lone]
  | '\\' :: c :: cs => escaped c :: ofChars cs
  | c :: cs => char c :: ofChars cs

def takeChars (p : Char → Bool) : Nat → List Token → List Char × List Token
  | n + 1, char c :: ts =>
    if p c then
      let (cs, rest) := takeChars p n ts
      (c :: cs, rest)
    else ([], char c :: ts)
  | _, ts => ([], ts)

def splitAt? (stop : Char) : List Token → Option (List Char × List Token)
  | [] => none
  | char c :: ts =>
    if c = stop then some ([], ts)
    else (splitAt? stop ts).map fun (cs, rest) => (c :: cs, rest)
  | escaped c :: ts => (splitAt? stop ts).map fun (cs, rest) => ('\\' :: c :: cs, rest)
  | lone :: _ => none

def isOctal (c : Char) : Bool := '0' ≤ c && c ≤ '7'

def isHex (c : Char) : Bool := c.isDigit || ('a' ≤ c && c ≤ 'f') || ('A' ≤ c && c ≤ 'F')

def digitValue (c : Char) : Nat :=
  if c.isDigit then c.toNat - '0'.toNat
  else if 'a' ≤ c then c.toNat - 'a'.toNat + 10
  else c.toNat - 'A'.toNat + 10

def numberIn (base : Nat) (cs : List Char) : Nat := cs.foldl (fun n c => base * n + digitValue c) 0

def hexCode? (n : Nat) (ts : List Token) : Except Error (Nat × List Token) :=
  let (cs, rest) := takeChars isHex n ts
  let code := numberIn 16 cs
  if cs.length ≠ n then .error .malformed
  else if code < 0x110000 then .ok (code, rest)
  else if code < 0x80000000 then .error .malformed
  else .error (.ahead .overflow rest)

def named? (g : Glossary) : List Token → Except Error (Nat × List Token)
  | char '{' :: ts =>
    match splitAt? '}' ts with
    | some (c :: cs, rest) =>
      match g (String.ofList (c :: cs)) with
      | some d => .ok (d.toNat, rest)
      | none => .error .malformed
    | _ => .error .malformed
  | _ => .error .malformed

def control? : Char → Option Nat
  | 'a' => some 7
  | 't' => some 9
  | 'n' => some 10
  | 'v' => some 11
  | 'f' => some 12
  | 'r' => some 13
  | _ => none

def code? (g : Glossary) (c : Char) (ts : List Token) : Except Error (Nat × List Token) :=
  match control? c with
  | some n => .ok (n, ts)
  | none =>
    if c = 'x' then hexCode? 2 ts
    else if c = 'u' then hexCode? 4 ts
    else if c = 'U' then hexCode? 8 ts
    else if c = 'N' then named? g ts
    else if c.isAlphanum then .error .malformed
    else .ok (c.toNat, ts)

end Token

end Allowlist.Pattern
