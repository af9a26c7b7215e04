import Allowlist.Pattern.SetReader
import Allowlist.Text.Name

/-!
Reading regular expressions. The reader goes over the tokens once and keeps the groups that are open
as a stack of levels; each token, with what belongs to it, either adds an item to the innermost
level or opens or closes one. Some things are found to be wrong at the end only: a look behind of no
fixed width, a loop where there may be none, a condition on a group that never came.
-/

namespace Allowlist.Pattern

inductive Role
  | plain
  | anchor
  | repeated
  deriving DecidableEq

inductive Opening
  | top
  | bare
  | capture (n : Nat)
  | atomic
  | ahead (negated : Bool)
  | behind (negated outermost : Bool)
  | cond (n : Nat)

/-- An open group: its finished alternatives and the items of the current one, both last first. -/
structure Level where
  opening : Opening
  mode : Mode
  alternatives : List Pattern
  items : List (Role × Pattern)

/-- `widths` has the groups that are closed. Inside of a look behind only groups below `horizon` may
be referred to. `awaited` are the group numbers that conditions ask for. -/
structure Reader where
  glossary : Glossary
  level : Level
  outer : List Level
  groups : Nat
  names : List (String × Nat)
  widths : List (Nat × Width)
  horizon : Option Nat
  awaited : List Nat
  unicode : Bool
  template : Bool
  looped : Bool
  unfit : Bool

abbrev Step := Except Error (Reader × List Token)

namespace Level

def sequence (l : Level) : Pattern := concat (l.items.reverse.map (·.2))

def body (l : Level) : Pattern :=
  match l.alternatives.reverse ++ [l.sequence] with
  | [] => .empty
  | p :: ps => choice p ps

def push (l : Level) (r : Role) (p : Pattern) : Level := { l with items := (r, p) :: l.items }

def isFresh (l : Level) : Bool :=
  l.alternatives.isEmpty && l.items.isEmpty && l.opening matches .top

end Level

namespace Reader

def start (g : Glossary) : Reader :=
  { glossary := g, level := ⟨.top, .initial, [], []⟩, outer := [], groups := 1, names := [],
    widths := [], horizon := none, awaited := [], unicode := false, template := false,
    looped := false, unfit := false }

def mode (r : Reader) : Mode := r.level.mode

def push (r : Reader) (role : Role) (p : Pattern) : Reader :=
  { r with level := r.level.push role p }

def pushChar (r : Reader) (s : CharSet) : Reader := r.push .plain (.char r.mode s)

def pushCode (r : Reader) (n : Nat) : Reader := r.pushChar (.code n)

def openLevel (r : Reader) (o : Opening) (m : Mode) : Reader :=
  { r with level := ⟨o, m, [], []⟩, outer := r.level :: r.outer }

def isInSight (r : Reader) (n : Nat) : Bool :=
  match r.horizon with
  | none => true
  | some h => (r.widths.lookup n).isSome && n < h

def pushBackref? (r : Reader) (n : Nat) (ts : List Token) : Step :=
  if (r.widths.lookup n).isSome && r.isInSight n then
    .ok (r.push .plain (.backref r.mode n), ts)
  else .error .malformed

def numbered? (r : Reader) (c : Char) (ts : List Token) : Step :=
  if c = '0' then
    let (cs, rest) := Token.takeChars Token.isOctal 2 ts
    .ok (r.pushCode (Token.numberIn 8 cs), rest)
  else
    match Token.takeChars Char.isDigit 1 ts with
    | ([d], rest) =>
      match Token.takeChars Token.isOctal 1 rest with
      | ([e], rest') =>
        if Token.isOctal c && Token.isOctal d then
          let n := Token.numberIn 8 [c, d, e]
          if n ≤ 0o377 then .ok (r.pushCode n, rest') else .error .malformed
        else r.pushBackref? (Token.numberIn 10 [c, d]) rest
      | _ => r.pushBackref? (Token.numberIn 10 [c, d]) rest
    | _ => r.pushBackref? (Token.numberIn 10 [c]) ts

def anchorEscape? : Char → Option Anchor
  | 'A' => some .textStart
  | 'Z' => some .textEnd
  | 'b' => some .boundary
  | 'B' => some .interior
  | _ => none

def escape? (r : Reader) (c : Char) (ts : List Token) : Step :=
  match anchorEscape? c, classEscape? c with
  | some a, _ => .ok (r.push .anchor (.anchor r.mode a), ts)
  | none, some (k, complement) => .ok (r.pushChar (.ofClass k complement), ts)
  | none, none =>
    if c.isDigit then r.numbered? c ts
    else (Token.code? r.glossary c ts).map fun (n, rest) => (r.pushCode n, rest)

def maxRounds : Nat := 4294967295

def bounds? (ts : List Token) : Option (List Char × List Char × List Token) :=
  let (lo, rest) := Token.takeChars Char.isDigit ts.length ts
  match lo, rest with
  | [], .char '}' :: _ => none
  | _, .char '}' :: rest => some (lo, lo, rest)
  | _, .char ',' :: rest =>
    match Token.takeChars Char.isDigit rest.length rest with
    | (hi, .char '}' :: rest) => some (lo, hi, rest)
    | _ => none
  | _, _ => none

def bound? (rest : List Token) (ds : List Char) : Except Error (Option Nat) :=
  if ds.isEmpty then .ok none
  else if Text.maxDigits < ds.length then .error (.ahead (.digits ds.length) rest)
  else if maxRounds ≤ Token.numberIn 10 ds then .error (.ahead .overflow rest)
  else .ok (some (Token.numberIn 10 ds))

def greed : List Token → Greed × List Token
  | .char '?' :: ts => (.lazy, ts)
  | .char '+' :: ts => (.possessive, ts)
  | ts => (.greedy, ts)

def repeat? (r : Reader) (least : Nat) (most : Option Nat) (ts : List Token) : Step :=
  match r.level.items with
  | (.plain, p) :: items =>
    let (g, rest) := greed ts
    let level := { r.level with items := (.repeated, .loop g least most p) :: items }
    .ok ({ r with level, looped := true }, rest)
  | _ => .error .malformed

def brace? (r : Reader) (ts : List Token) : Step :=
  match bounds? ts with
  | none => .ok (r.pushCode '{'.toNat, ts)
  | some (lo, hi, rest) => do
    let least ← bound? rest lo
    let most ← bound? rest hi
    if least.getD 0 ≤ most.getD maxRounds then r.repeat? (least.getD 0) most rest
    else .error .malformed

def openCapture (r : Reader) (ts : List Token) : Reader × List Token :=
  ({ r.openLevel (.capture r.groups) r.mode with groups := r.groups + 1 }, ts)

def openNamed? (r : Reader) (ts : List Token) : Step :=
  match Token.splitAt? '>' ts with
  | some (name, rest) =>
    let s := String.ofList name
    if Text.isName name && (r.names.lookup s).isNone then
      .ok ({ r with names := (s, r.groups) :: r.names }.openCapture rest)
    else .error .malformed
  | none => .error .malformed

def namedBackref? (r : Reader) (ts : List Token) : Step :=
  match Token.splitAt? ')' ts with
  | some (name, rest) =>
    match r.names.lookup (String.ofList name) with
    | some n => r.pushBackref? n rest
    | none => .error .malformed
  | none => .error .malformed

def openBehind (r : Reader) (negated : Bool) : Reader :=
  let o := r.openLevel (.behind negated r.horizon.isNone) r.mode
  { o with horizon := some (r.horizon.getD r.groups) }

def maxGroups : Nat := 1073741823

def condition? (r : Reader) (name : List Char) : Option (Nat × List Nat) :=
  if Text.isName name then (r.names.lookup (String.ofList name)).map (·, [])
  else do
    let n ← Text.integer? (String.ofList name)
    if 0 < n ∧ n < maxGroups then some (n.toNat, [n.toNat]) else none

def openCondition? (r : Reader) (ts : List Token) : Step :=
  match Token.splitAt? ')' ts with
  | some (name, rest) =>
    match r.condition? name with
    | some (n, awaited) =>
      if r.isInSight n then
        .ok ({ r.openLevel (.cond n) r.mode with awaited := awaited ++ r.awaited }, rest)
      else .error .malformed
    | none => .error .malformed
  | none => .error .malformed

def isFlag (c : Char) : Bool := "aimstux".toList.contains c

def withFlag (m : Mode) : Char → Mode
  | 'a' => { m with ascii := true }
  | 'u' => { m with ascii := false }
  | 'i' => { m with ignoreCase := true }
  | 'm' => { m with multiline := true }
  | 's' => { m with dotAll := true }
  | 'x' => { m with verbose := true }
  | _ => m

def withoutFlag (m : Mode) : Char → Mode
  | 'i' => { m with ignoreCase := false }
  | 'm' => { m with multiline := false }
  | 's' => { m with dotAll := false }
  | 'x' => { m with verbose := false }
  | _ => m

def globalFlags? (r : Reader) (on : List Char) (ts : List Token) : Step :=
  if r.level.isFresh then
    let m := on.foldl withFlag r.mode
    let level := { r.level with mode := { m with ascii := r.mode.ascii || m.ascii } }
    let unicode := r.unicode || on.contains 'u'
    .ok ({ r with level, unicode, template := r.template || on.contains 't' }, ts)
  else .error .malformed

def openFlags? (r : Reader) (on off : List Char) (ts : List Token) : Step :=
  if on.contains 't' || off.any ['a', 't', 'u'].contains || off.any on.contains then
    .error .malformed
  else .ok (r.openLevel .bare (off.foldl withoutFlag (on.foldl withFlag r.mode)), ts)

def flags? (r : Reader) (ts : List Token) : Step :=
  let (on, rest) := Token.takeChars isFlag ts.length ts
  if on.contains 'a' && on.contains 'u' then .error .malformed
  else match on, rest with
    | _ :: _, .char ')' :: rest => r.globalFlags? on rest
    | _ :: _, .char ':' :: rest => r.openFlags? on [] rest
    | _, .char '-' :: rest =>
      match Token.takeChars isFlag rest.length rest with
      | (f :: fs, .char ':' :: rest) => r.openFlags? on (f :: fs) rest
      | _ => .error .malformed
    | _, _ => .error .malformed

def extension? (r : Reader) : List Token → Step
  | .char ':' :: ts => .ok (r.openLevel .bare r.mode, ts)
  | .char 'P' :: .char '<' :: ts => r.openNamed? ts
  | .char 'P' :: .char '=' :: ts => r.namedBackref? ts
  | .char '#' :: ts =>
    match Token.splitAt? ')' ts with
    | some (_, rest) => .ok (r, rest)
    | none => .error .malformed
  | .char '=' :: ts => .ok (r.openLevel (.ahead false) r.mode, ts)
  | .char '!' :: ts => .ok (r.openLevel (.ahead true) r.mode, ts)
  | .char '<' :: .char '=' :: ts => .ok (r.openBehind false, ts)
  | .char '<' :: .char '!' :: ts => .ok (r.openBehind true, ts)
  | .char '(' :: ts => r.openCondition? ts
  | .char '>' :: ts => .ok (r.openLevel .atomic r.mode, ts)
  | ts => r.flags? ts

def open? (r : Reader) : List Token → Step
  | .char '?' :: ts => r.extension? ts
  | ts => .ok (r.openCapture ts)

def bar? (r : Reader) (ts : List Token) : Step :=
  let l := r.level
  match l.opening, l.alternatives with
  | .cond _, _ :: _ => .error .malformed
  | _, _ =>
    let l := { l with alternatives := l.sequence :: l.alternatives, items := [] }
    .ok ({ r with level := l }, ts)

def widthBound : Nat := 0x100000000

def isFit (w : Width) : Bool := w.most = some w.least && w.least < widthBound

/-- Where rules for ASCII were asked for, those for all characters may not be. -/
def clashes (r : Reader) : Bool := r.mode.ascii && r.unicode

def closeWith (r : Reader) (l : Level) (ls : List Level) (p : Pattern) : Reader :=
  { r with level := l.push .plain p, outer := ls }

def close? (r : Reader) (ts : List Token) : Step :=
  match r.outer with
  | [] => .error (if r.clashes then .mishap .flags else .malformed)
  | l :: ls =>
    let p := r.level.body
    let w := p.width r.widths
    match r.level.opening with
    | .top => .error .malformed
    | .bare => .ok (r.closeWith l ls p, ts)
    | .capture n =>
      let r' := r.closeWith l ls (.group n p)
      .ok ({ r' with widths := (n, w) :: r.widths }, ts)
    | .atomic => .ok (r.closeWith l ls (.atomic p), ts)
    | .ahead negated => .ok (r.closeWith l ls (.look none negated p), ts)
    | .behind negated outermost =>
      let r' := r.closeWith l ls (.look (some w.least) negated p)
      let horizon := if outermost then none else r.horizon
      .ok ({ r' with horizon, unfit := r.unfit || !isFit w }, ts)
    | .cond n =>
      let q := match r.level.alternatives with
        | [] => .cond n r.level.sequence .empty
        | yes :: _ => .cond n yes r.level.sequence
      .ok (r.closeWith l ls q, ts)

def isLayout (c : Char) : Bool := Text.isAsciiBlank c

def skipLine : List Token → List Token
  | [] => []
  | t :: ts => if t = .char '\n' then ts else if t = .lone then t :: ts else skipLine ts

def char? (r : Reader) (c : Char) (ts : List Token) : Step :=
  if r.mode.verbose && isLayout c then .ok (r, ts)
  else if r.mode.verbose && c = '#' then .ok (r, skipLine ts)
  else match c with
    | '[' => (charSet? r.glossary ts).map fun (s, rest) => (r.pushChar s, rest)
    | '?' => r.repeat? 0 (some 1) ts
    | '*' => r.repeat? 0 none ts
    | '+' => r.repeat? 1 none ts
    | '{' => r.brace? ts
    | '.' => .ok (r.pushChar (if r.mode.dotAll then .all else .notNewline), ts)
    | '(' => r.open? ts
    | ')' => r.close? ts
    | '|' => r.bar? ts
    | '^' => .ok (r.push .anchor (.anchor r.mode .lineStart), ts)
    | '$' => .ok (r.push .anchor (.anchor r.mode .lineEnd), ts)
    | _ => .ok (r.pushCode c.toNat, ts)

def step? (r : Reader) : Token → List Token → Step
  | .char c, ts => r.char? c ts
  | .escaped c, ts => r.escape? c ts
  | .lone, _ => .error .malformed

def finish (r : Reader) : Except Error Pattern :=
  if !r.outer.isEmpty then .error .malformed
  else if r.clashes then .error (.mishap .flags)
  else if r.awaited.all (· < r.groups) && !r.unfit && !(r.template && r.looped) then
    .ok r.level.body
  else .error .malformed

def read : Nat → Reader → List Token → Except Error Pattern
  | _, r, [] => r.finish
  | 0, _, _ => .error .malformed
  | fuel + 1, r, t :: ts => do
    let (r', rest) ← r.step? t ts
    read fuel r' rest

end Reader

def ofText (g : Glossary) (s : String) : Except Error Pattern :=
  let ts := Token.ofChars s.toList
  Reader.read ts.length (.start g) ts

end Allowlist.Pattern
