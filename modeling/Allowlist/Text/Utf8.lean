/-!
Texts as bytes in UTF-8, and from such bytes. Bytes that are no part of a character are replaced, as
many at a time as could have begun one.
-/

namespace Allowlist.Text

def utf8 (s : String) : List UInt8 := s.toUTF8.data.toList

theorem utf8_inj {s t : String} : utf8 s = utf8 t ↔ s = t := by
  constructor
  · intro h
    exact String.toByteArray_inj.1 (ByteArray.ext (Array.toList_inj.1 h))
  · intro h
    rw [h]

def replacement : Char := Char.ofNat 0xFFFD

def leadByte? (b : Nat) : Option (Nat × List (Nat × Nat)) :=
  if b < 0x80 then some (b, [])
  else if 0xC2 ≤ b && b ≤ 0xDF then some (b - 0xC0, [(0x80, 0xBF)])
  else if b = 0xE0 then some (0, [(0xA0, 0xBF), (0x80, 0xBF)])
  else if b = 0xED then some (b - 0xE0, [(0x80, 0x9F), (0x80, 0xBF)])
  else if 0xE1 ≤ b && b ≤ 0xEF then some (b - 0xE0, [(0x80, 0xBF), (0x80, 0xBF)])
  else if b = 0xF0 then some (0, [(0x90, 0xBF), (0x80, 0xBF), (0x80, 0xBF)])
  else if 0xF1 ≤ b && b ≤ 0xF3 then some (b - 0xF0, [(0x80, 0xBF), (0x80, 0xBF), (0x80, 0xBF)])
  else if b = 0xF4 then some (4, [(0x80, 0x8F), (0x80, 0xBF), (0x80, 0xBF)])
  else none

def tailBytes (n : Nat) : List (Nat × Nat) → List UInt8 → Option Nat × List UInt8
  | [], bs => (some n, bs)
  | _ :: _, [] => (none, [])
  | (lo, hi) :: rs, b :: bs =>
    if lo ≤ b.toNat && b.toNat ≤ hi then tailBytes (n * 64 + b.toNat % 64) rs bs
    else (none, b :: bs)

theorem tailBytes_length (n : Nat) (rs : List (Nat × Nat)) (bs : List UInt8) :
    (tailBytes n rs bs).2.length ≤ bs.length := by
  induction rs generalizing n bs with
  | nil => simp [tailBytes]
  | cons r rs ih =>
    cases bs with
    | nil => simp [tailBytes]
    | cons b bs =>
      simp only [tailBytes]
      split
      · exact Nat.le_succ_of_le (ih ..)
      · simp

/-- The character at the front, if there is one, and what follows it or the bytes in its place. -/
def firstChar? (b : UInt8) (bs : List UInt8) : Option Char × List UInt8 :=
  match leadByte? b.toNat with
  | none => (none, bs)
  | some (n, rs) =>
    let r := tailBytes n rs bs
    (r.1.map Char.ofNat, r.2)

theorem firstChar?_length (b : UInt8) (bs : List UInt8) :
    (firstChar? b bs).2.length ≤ bs.length := by
  simp only [firstChar?]
  split
  · simp
  · exact tailBytes_length ..

def utf8Chars : List UInt8 → List (Option Char)
  | [] => []
  | b :: bs =>
    have := firstChar?_length b bs
    (firstChar? b bs).1 :: utf8Chars (firstChar? b bs).2
termination_by bs => bs.length
decreasing_by simp; omega

def ofUtf8? (bs : List UInt8) : Option String := ((utf8Chars bs).mapM id).map String.ofList

def ofUtf8Lossy (bs : List UInt8) : String :=
  String.ofList ((utf8Chars bs).map (·.getD replacement))

end Allowlist.Text
