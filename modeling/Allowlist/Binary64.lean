/-!
Binary floating point numbers of 64 bits, as the values they stand for: an infinity, no number, or
a signed multiple of a power of two. `ofRatio` rounds a fraction to the nearest of them.
-/

namespace Allowlist

/-- `finite s m q` is `m * 2 ^ q`, negated if `s`. The mantissa has 53 digits, or fewer where `q` is
the least exponent. -/
inductive Binary64
  | nan
  | infinite (negative : Bool)
  | finite (negative : Bool) (mantissa : Nat) (exponent : Int)
  deriving DecidableEq

namespace Binary64

def mantissaBound : Nat := Nat.pow 2 53

def leastExponent : Int := -1074

def greatestExponent : Int := 971

def roundQuotient (num den : Nat) : Nat :=
  let q := num / den
  let r := num % den
  if 2 * r < den ∨ (2 * r = den ∧ q % 2 = 0) then q else q + 1

def scaled (num den : Nat) (e : Int) : Nat × Nat :=
  (num * Nat.pow 2 (-e).toNat, den * Nat.pow 2 e.toNat)

def exponentOf (num den : Nat) : Int :=
  let e := max ((num.log2 : Int) - den.log2 - 53) leastExponent
  let (n, d) := scaled num den e
  if mantissaBound ≤ n / d then e + 1 else e

def ofRatio (negative : Bool) (num den : Nat) : Binary64 :=
  let e := exponentOf num den
  let (n, d) := scaled num den e
  let m := roundQuotient n d
  let (m, e) := if m = mantissaBound then (m / 2, e + 1) else (m, e)
  if greatestExponent < e then .infinite negative else .finite negative m e

def decimalReach : Int := 400

def ofDecimal (negative : Bool) (n : Nat) (e : Int) : Binary64 :=
  let size := e + (Nat.toDigits 10 n).length
  if n = 0 ∨ size < -decimalReach then .finite negative 0 leastExponent
  else if decimalReach < size then .infinite negative
  else ofRatio negative (n * Nat.pow 10 e.toNat) (Nat.pow 10 (-e).toNat)

def toInt? : Binary64 → Option Int
  | .finite s m q =>
    let d := Nat.pow 2 (-q).toNat
    if m % d = 0 then
      let n : Int := ↑(m / d * Nat.pow 2 q.toNat)
      some (if s then -n else n)
    else none
  | _ => none

end Binary64

end Allowlist
