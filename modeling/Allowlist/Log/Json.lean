import Allowlist.Text.Order
import Allowlist.Text.Quoted
import Allowlist.Value.Display

namespace Allowlist.Log.Json

def unitEscape (n : Nat) : List Char := '\\' :: 'u' :: Text.hex 4 n

def charEscape (c : Char) : List Char :=
  if c = '"' || c = '\\' then ['\\', c]
  else if ' ' ≤ c && c ≤ '~' then [c]
  else match c with
    | '\n' => ['\\', 'n']
    | '\r' => ['\\', 'r']
    | '\t' => ['\\', 't']
    | '\x08' => ['\\', 'b']
    | '\x0c' => ['\\', 'f']
    | _ =>
      let n := c.toNat
      if n < 0x10000 then unitEscape n
      else
        let m := n - 0x10000
        unitEscape (0xD800 + m / 0x400) ++ unitEscape (0xDC00 + m % 0x400)

def string (s : String) : String := String.ofList ('"' :: s.toList.flatMap charEscape ++ ['"'])

def layout : Binary64.Layout := { Binary64.plain with nan := "NaN", infinity := "Infinity" }

def scalar? : Scalar → Option String
  | .bool b => some (if b then "true" else "false")
  | .int n => (Text.ofInteger n).toOption
  | .float x => some (layout.write x)
  | .text s => some (string s)
  | .bytes bs => some (string (Text.quoteBytes bs))

def name? : Key → Option String
  | .null => some "null"
  | .leaf (.text s) => some s
  | .leaf (.bytes _) => none
  | .leaf s => scalar? s
  | .tuple _ => none

inductive Rank
  | text (s : String)
  | number (n : Int)

def quantityRank? : Quantity → Option Int
  | .whole n => some (n * ↑(Nat.pow 2 1074))
  | .other (.finite s m q) =>
    let n : Int := ↑(m * Nat.pow 2 (q + 1074).toNat)
    some (if s then -n else n)
  | .other (.infinite s) =>
    let n : Int := ↑(Nat.pow 2 4096)
    some (if s then -n else n)
  | .other .nan => none

def rank? : Key → Option Rank
  | .text s => some (.text s)
  | .leaf s => s.quantity?.bind fun q => (quantityRank? q).map .number
  | _ => none

def Rank.isText : Rank → Bool
  | .text _ => true
  | .number _ => false

def comparable (es : List (Rank × String)) : Bool :=
  es.all (fun e => e.1.isText) || es.all fun e => !e.1.isText

def Rank.le : Rank → Rank → Bool
  | .text s, .text t => !(t < s)
  | .number m, .number n => m ≤ n
  | _, _ => true

def sorted? (es : List (Key × String)) : Option (List String) :=
  match es with
  | [(_, t)] => some [t]
  | _ => do
    let rs ← es.mapM fun (k, t) => (rank? k).map (·, t)
    if comparable rs then some ((rs.mergeSort fun a b => a.1.le b.1).map (·.2)) else none

def array (ss : List String) : String := "[" ++ Text.join ", " ss ++ "]"

def object (ss : List String) : String := "\x7b" ++ Text.join ", " ss ++ "\x7d"

mutual
def value? : Value → Option String
  | .null => some "null"
  | .leaf s => scalar? s
  | .list vs => (values? vs).map array
  | .tuple vs => (values? vs).map array
  | .map es => ((members? es).bind sorted?).map object

def values? : List Value → Option (List String)
  | [] => some []
  | v :: vs => do return (← value? v) :: (← values? vs)

def members? : Entries → Option (List (Key × String))
  | [] => some []
  | (k, v) :: es => do
    let n ← name? k
    let t ← value? v
    return (k, string n ++ ": " ++ t) :: (← members? es)
end

end Allowlist.Log.Json
