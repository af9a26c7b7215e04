import Allowlist.Binary64
import Allowlist.Text.Pieces

/-!
The decimal text of a number: the fewest digits that are nearer to it than to any other number, and
of those the nearest ones.
-/

namespace Allowlist.Binary64

structure Digits where
  digits : Nat
  scale : Int

/-- A positive number and the ends of the interval of reals that round to it, over one
denominator. The ends belong to the interval if the mantissa is even. -/
structure Interval where
  low : Nat
  value : Nat
  high : Nat
  den : Nat
  closed : Bool

def interval (m : Nat) (q : Int) : Interval :=
  let step := Nat.pow 2 (q - 2).toNat
  let below := if 2 * m = mantissaBound ∧ leastExponent < q then 1 else 2
  { low := (4 * m - below) * step
    value := 4 * m * step
    high := (4 * m + 2) * step
    den := Nat.pow 2 (2 - q).toNat
    closed := m % 2 = 0 }

def Interval.has (i : Interval) (n : Nat) (k : Int) : Bool :=
  let x := n * Nat.pow 10 k.toNat * i.den
  let unit := Nat.pow 10 (-k).toNat
  let low := i.low * unit
  let high := i.high * unit
  if i.closed then low ≤ x && x ≤ high else low < x && x < high

def Interval.nearest? (i : Interval) (k : Int) : Option Digits :=
  let num := i.value * Nat.pow 10 (-k).toNat
  let den := i.den * Nat.pow 10 k.toNat
  let n := num / den
  let r := num % den
  let up := den < 2 * r || (den == 2 * r && n % 2 == 1)
  let (first, second) := if up then (n + 1, n) else (n, n + 1)
  if i.has first k then some ⟨first, k⟩
  else if i.has second k then some ⟨second, k⟩
  else none

def Interval.leading (i : Interval) : Int :=
  if i.den ≤ i.value then (Nat.toDigits 10 (i.value / i.den)).length - 1
  else -((Nat.toDigits 10 ((i.den - 1) / i.value)).length : Int)

def shortest (m : Nat) (q : Int) : Digits :=
  let i := interval m q
  let lead := i.leading
  ((List.range 18).findSome? fun (n : Nat) => i.nearest? (lead - n)).getD ⟨0, 0⟩

/-- How digits are laid out. Exponents from `leastPlain` up to, but not including, `endPlain` are
written without a power of ten. -/
structure Layout where
  leastPlain : Int
  endPlain : Int
  exponentMark : String
  exponentWidth : Nat
  nan : String
  infinity : String

def Layout.exponent (l : Layout) (e : Int) : String :=
  let ds := toString e.natAbs
  l.exponentMark ++ (if e < 0 then "-" else "+") ++
    String.ofList (List.replicate (l.exponentWidth - ds.length) '0') ++ ds

def Layout.positional (ds : List Char) (e : Int) : List Char :=
  if e < 0 then '0' :: '.' :: List.replicate (-e - 1).toNat '0' ++ ds
  else
    let whole := ds.take (e.toNat + 1)
    let rest := ds.drop (e.toNat + 1)
    whole ++ List.replicate (e.toNat + 1 - ds.length) '0' ++
      '.' :: (if rest.isEmpty then ['0'] else rest)

def Layout.scientific (l : Layout) (ds : List Char) (e : Int) : String :=
  match ds with
  | [] => ""
  | [d] => String.singleton d ++ l.exponent e
  | d :: rest => String.ofList (d :: '.' :: rest) ++ l.exponent e

def significant (n : Nat) : List Char :=
  match ((Nat.toDigits 10 n).reverse.dropWhile (· = '0')).reverse with
  | [] => ['0']
  | ds => ds

def Layout.write (l : Layout) : Binary64 → String
  | .nan => l.nan
  | .infinite s => (if s then "-" else "") ++ l.infinity
  | .finite s m q =>
    let sign := if s then "-" else ""
    if m = 0 then sign ++ "0.0"
    else
      let d := shortest m q
      let e := d.scale + (Nat.toDigits 10 d.digits).length - 1
      let ds := significant d.digits
      sign ++ if l.leastPlain ≤ e && e < l.endPlain then String.ofList (Layout.positional ds e)
        else l.scientific ds e

def plain : Layout := ⟨-4, 16, "e", 2, "nan", "inf"⟩

def toText (x : Binary64) : String := plain.write x

def ofUnsigned? (negative : Bool) (s : String) : Option Binary64 := do
  let (body, e) ← match Text.pieces 'e' s with
    | [b] => some (b, 0)
    | [b, x] => do
      let x := x.toList
      let n ← (String.ofList (x.dropWhile (· == '+'))).toInt?
      some (b, n)
    | _ => none
  let (whole, frac) ← match Text.pieces '.' body with
    | [w] => some (w, "")
    | [w, f] => some (w, f)
    | _ => none
  let n ← (whole ++ frac).toNat?
  some (ofDecimal negative n (e - frac.length))

def ofText? (s : String) : Option Binary64 :=
  let low := s.map Char.toLower
  let (negative, body) := match low.toList with
    | '-' :: cs => (true, String.ofList cs)
    | '+' :: cs => (false, String.ofList cs)
    | _ => (false, low)
  if body = "nan" then some .nan
  else if body = "inf" || body = "infinity" then some (.infinite negative)
  else ofUnsigned? negative body

end Allowlist.Binary64
