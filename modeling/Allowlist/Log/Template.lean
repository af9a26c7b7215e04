import Allowlist.Binary64.Decimal
import Allowlist.Value.Display

namespace Allowlist.Log.Template

structure Mark where
  flags : List Char
  width : Nat
  precision : Option Nat
  conversion : Char

def isFlag (c : Char) : Bool := "-+ 0#".toList.contains c

def natural (cs : List Char) : Nat := cs.foldl (fun n c => 10 * n + (c.toNat - '0'.toNat)) 0

def digits (cs : List Char) : Nat × List Char :=
  (natural (cs.takeWhile Char.isDigit), cs.dropWhile Char.isDigit)

def precision : List Char → Option Nat × List Char
  | '.' :: cs => (some (digits cs).1, (digits cs).2)
  | cs => (none, cs)

def mark? (cs : List Char) : Option (Mark × List Char) :=
  let width := digits (cs.dropWhile isFlag)
  let precision := precision width.2
  match precision.2 with
  | c :: rest => some (⟨cs.takeWhile isFlag, width.1, precision.1, c⟩, rest)
  | [] => none

theorem dropWhile_length (p : Char → Bool) (cs : List Char) :
    (cs.dropWhile p).length ≤ cs.length :=
  (List.dropWhile_sublist p).length_le

theorem precision_length (cs : List Char) : (precision cs).2.length ≤ cs.length := by
  unfold precision
  split
  · exact Nat.le_succ_of_le (dropWhile_length ..)
  · simp

theorem mark?_length {cs rest : List Char} {m : Mark} (h : mark? cs = some (m, rest)) :
    rest.length < cs.length := by
  simp only [mark?] at h
  split at h
  · rename_i c rest' e
    simp only [Option.some.injEq, Prod.mk.injEq] at h
    have h₁ := dropWhile_length isFlag cs
    have h₂ := dropWhile_length Char.isDigit (cs.dropWhile isFlag)
    have h₃ := precision_length (digits (cs.dropWhile isFlag)).2
    rw [e, List.length_cons, h.2] at h₃
    simp only [digits] at h₃
    omega
  · simp at h

def Mark.has (m : Mark) (c : Char) : Bool := m.flags.contains c

def Mark.pad (m : Mark) (sign body : List Char) (numeric : Bool) : List Char :=
  let gap := m.width - (sign.length + body.length)
  if m.has '-' then sign ++ body ++ List.replicate gap ' '
  else if numeric && m.has '0' then sign ++ List.replicate gap '0' ++ body
  else List.replicate gap ' ' ++ sign ++ body

def Mark.sign (m : Mark) (negative : Bool) : List Char :=
  if negative then ['-'] else if m.has '+' then ['+'] else if m.has ' ' then [' '] else []

def Mark.text (m : Mark) (s : String) : List Char :=
  let cs := s.toList
  m.pad [] (match m.precision with
    | some n => cs.take n
    | none => cs) false

def Mark.integer (m : Mark) (base : Nat) (n : Int) : List Char :=
  let ds := Nat.toDigits base n.natAbs
  let ds := List.replicate (m.precision.getD 0 - ds.length) '0' ++ ds
  m.pad (m.sign (n < 0)) ds true

def truncated? : Scalar → Option Int
  | .bool b => some b.toNat
  | .int n => some n
  | .float (.finite s m q) =>
    let n : Int := ↑(m * Nat.pow 2 q.toNat / Nat.pow 2 (-q).toNat)
    some (if s then -n else n)
  | _ => none

def whole? : Scalar → Option Int
  | .bool b => some b.toNat
  | .int n => some n
  | _ => none

def Mark.decimal? (m : Mark) (s : Scalar) : Option (List Char) := do
  let n ← truncated? s
  let _ ← (Text.ofInteger n).toOption
  return m.integer 10 n

def Mark.fill? (m : Mark) (v : Value) : Option (List Char) :=
  match m.conversion, v with
  | 's', v => v.display.toOption.map m.text
  | 'r', v => v.literal.toOption.map m.text
  | 'd', .leaf s => m.decimal? s
  | 'i', .leaf s => m.decimal? s
  | 'u', .leaf s => m.decimal? s
  | 'x', .leaf s => (whole? s).map (m.integer 16)
  | 'o', .leaf s => (whole? s).map (m.integer 8)
  | _, _ => none

/-- Puts the arguments in place of the marks, in order; there must be one for each. -/
def fillFrom? (cs : List Char) (args : List Value) : Option (List Char) :=
  match cs, args with
  | [], [] => some []
  | [], _ :: _ => none
  | '%' :: cs, args =>
    match h : mark? cs with
    | none => none
    | some (m, rest) =>
      have := mark?_length h
      if m.conversion = '%' then ('%' :: ·) <$> fillFrom? rest args
      else match args with
        | [] => none
        | v :: vs => do return (← m.fill? v) ++ (← fillFrom? rest vs)
  | c :: cs, args => (c :: ·) <$> fillFrom? cs args
termination_by cs.length

def fill? (template : String) (args : List Value) : Option String :=
  if args.isEmpty then some template
  else (fillFrom? template.toList args).map String.ofList

end Allowlist.Log.Template
