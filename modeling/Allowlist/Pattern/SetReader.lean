import Allowlist.Pattern
import Allowlist.Pattern.Token

namespace Allowlist.Pattern

def classEscape? : Char → Option (CharClass × Bool)
  | 'd' => some (.digit, false)
  | 'D' => some (.digit, true)
  | 's' => some (.space, false)
  | 'S' => some (.space, true)
  | 'w' => some (.word, false)
  | 'W' => some (.word, true)
  | _ => none

inductive Member
  | code (n : Nat)
  | cls (k : CharClass) (complement : Bool)

namespace Member

variable (g : Glossary)

def ofEscape? (c : Char) (ts : List Token) : Except Error (Member × List Token) :=
  match classEscape? c with
  | some (k, complement) => .ok (cls k complement, ts)
  | none =>
    if c = 'b' then .ok (code 8, ts)
    else if Token.isOctal c then
      let (cs, rest) := Token.takeChars Token.isOctal 2 ts
      let n := Token.numberIn 8 (c :: cs)
      if n ≤ 0o377 then .ok (code n, rest) else .error .malformed
    else (Token.code? g c ts).map fun (n, rest) => (code n, rest)

def ofToken? : Token → List Token → Except Error (Member × List Token)
  | .char c, ts => .ok (code c.toNat, ts)
  | .escaped c, ts => ofEscape? g c ts
  | .lone, _ => .error .malformed

def addTo (s : CharSet) : Member → CharSet
  | code n => s.addRange n n
  | cls k complement => s.addClass k complement

end Member

/-- Reads members up to the bracket that closes the set; `first` tells that there is none yet. A
hyphen between two characters makes a range, one before the bracket stands for itself. -/
def members? (g : Glossary) :
    Nat → Bool → CharSet → List Token → Except Error (CharSet × List Token)
  | 0, _, _, _ => .error .malformed
  | _, _, _, [] => .error .malformed
  | fuel + 1, first, s, t :: ts =>
    if t = .char ']' && !first then .ok (s, ts)
    else do
      let (m, rest) ← Member.ofToken? g t ts
      match rest with
      | .char '-' :: .char ']' :: rest => .ok ((Member.code '-'.toNat).addTo (m.addTo s), rest)
      | .char '-' :: u :: rest =>
        let (m', rest) ← Member.ofToken? g u rest
        match m, m' with
        | .code a, .code b =>
          if a ≤ b then members? g fuel false (s.addRange a b) rest else .error .malformed
        | _, _ => .error .malformed
      | _ => members? g fuel false (m.addTo s) rest

def charSet? (g : Glossary) (ts : List Token) : Except Error (CharSet × List Token) :=
  match ts with
  | .char '^' :: rest => members? g rest.length true ⟨[], [], true⟩ rest
  | _ => members? g ts.length true ⟨[], [], false⟩ ts

end Allowlist.Pattern
