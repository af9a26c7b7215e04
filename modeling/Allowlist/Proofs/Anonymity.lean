import Allowlist.Anonymize
import Allowlist.Proofs.Escape.Fixed

namespace Allowlist

namespace Text

def hexDigits : List Char :=
  ['0', '1', '2', '3', '4', '5', '6', '7', '8', '9', 'a', 'b', 'c', 'd', 'e', 'f']

/-- A digest as it is written out. -/
def IsDigest (s : String) : Prop := s.length = 64 ∧ ∀ c ∈ s.toList, c ∈ hexDigits

theorem digitChar_mem_hexDigits : ∀ n < 16, n.digitChar ∈ hexDigits := by decide

theorem digitChar_inj : ∀ m < 16, ∀ n < 16, m.digitChar = n.digitChar → m = n := by decide

theorem hex_two {n : Nat} (h : n < 256) :
    hex 2 n = [(n / 16).digitChar, (n % 16).digitChar] := by
  by_cases hn : n < 16
  · simp [hex, Nat.toDigits_of_lt_base hn, Nat.div_eq_of_lt hn, Nat.mod_eq_of_lt hn]
  · have high : n / 16 < 16 := by omega
    simp [hex, Nat.toDigits_of_base_le (by decide) (Nat.le_of_not_lt hn),
      Nat.toDigits_of_lt_base high]

theorem toList_hexText_cons (b : UInt8) (bs : List UInt8) : (hexText (b :: bs)).toList =
    (b.toNat / 16).digitChar :: (b.toNat % 16).digitChar :: (hexText bs).toList := by
  simp [hexText, hex_two b.toNat_lt]

theorem length_hexText (bs : List UInt8) : (hexText bs).length = 2 * bs.length := by
  rw [← String.length_toList]
  induction bs with
  | nil => rfl
  | cons b bs ih =>
    rw [toList_hexText_cons, List.length_cons, List.length_cons, ih, List.length_cons]
    omega

theorem mem_hexText {bs : List UInt8} {c : Char} (h : c ∈ (hexText bs).toList) :
    c ∈ hexDigits := by
  induction bs with
  | nil => cases h
  | cons b bs ih =>
    have := b.toNat_lt
    rw [toList_hexText_cons, List.mem_cons, List.mem_cons] at h
    obtain rfl | rfl | h := h
    · exact digitChar_mem_hexDigits _ (by omega)
    · exact digitChar_mem_hexDigits _ (by omega)
    · exact ih h

theorem hexText_inj {bs cs : List UInt8} : hexText bs = hexText cs ↔ bs = cs := by
  refine ⟨fun h => ?_, congrArg hexText⟩
  rw [← String.toList_inj] at h
  induction bs generalizing cs with
  | nil =>
    cases cs with
    | nil => rfl
    | cons c cs =>
      rw [toList_hexText_cons] at h
      cases h
  | cons b bs ih =>
    cases cs with
    | nil =>
      rw [toList_hexText_cons] at h
      cases h
    | cons c cs =>
      have := b.toNat_lt
      have := c.toNat_lt
      rw [toList_hexText_cons, toList_hexText_cons, List.cons.injEq, List.cons.injEq] at h
      have high := digitChar_inj _ (by omega) _ (by omega) h.1
      have low := digitChar_inj _ (by omega) _ (by omega) h.2.1
      have byte : b = c := UInt8.toNat_inj.1 (by omega)
      rw [byte, ih h.2.2]

namespace IsDigest

variable {s : String}

theorem not_blank (h : IsDigest s) : isBlankText s = false := by
  obtain ⟨hlen, hdigits⟩ := h
  have visible : hexDigits.any isBlank = false := by decide
  rw [List.any_eq_false] at visible
  obtain ⟨c, cs, hs⟩ : ∃ c cs, s.toList = c :: cs := by
    apply List.exists_cons_of_length_pos
    rw [String.length_toList, hlen]
    decide
  rw [hs, List.forall_mem_cons] at hdigits
  simp [isBlankText, hs, visible c hdigits.1]

theorem apply_eq (h : IsDigest s) {e : Escape} (he : hexDigits.any e.isDirty = false) :
    e.apply s = s := by
  apply Escape.apply_of_clean
  rw [List.any_eq_false] at he ⊢
  exact fun c hc => he c (h.2 c hc)

theorem value_eq (h : IsDigest s) : Escape.value s = s := h.apply_eq (by decide)

theorem id_eq (h : IsDigest s) : Escape.id s = s := h.apply_eq (by decide)

theorem name_eq (h : IsDigest s) : Escape.name s = s := by
  rw [Escape.name, h.apply_eq (by decide), ite_self]

end IsDigest

theorem isDigest_hexText {bs : List UInt8} (h : bs.length = 32) : IsDigest (hexText bs) :=
  ⟨by rw [length_hexText, h], fun _ hc => mem_hexText hc⟩

theorem utf8_append_inj {pre : List UInt8} {s t : String} :
    pre ++ utf8 s = pre ++ utf8 t ↔ s = t := by
  rw [List.append_cancel_left_eq, utf8_inj]

end Text

theorem Sha256.length_bigEndian (n count : Nat) : (bigEndian n count).length = count := by
  simp [bigEndian]

theorem Sha256.length_hash (bs : List UInt8) : (hash bs).length = 32 := by
  simp [hash, List.length_flatMap, length_bigEndian, List.map_const']

section

variable {hash : List UInt8 → List UInt8} {salt : Salt} {s t : String}

theorem anonymizeWith_blank (h : Text.isBlankText s = true) : anonymizeWith hash salt s = s :=
  if_pos h

theorem anonymizeWith_of_not_blank (h : Text.isBlankText s = false) :
    anonymizeWith hash salt s = hexText (hash (salt.toBytes ++ Text.utf8 s)) :=
  if_neg (by simp [h])

theorem anonymizeWith_bytes (key : String) :
    anonymizeWith hash (.bytes (Text.utf8 key)) s = anonymizeWith hash (.text key) s := by
  rw [anonymizeWith, anonymizeWith, Salt.toBytes, Salt.toBytes]

theorem isDigest_anonymizeWith (hlen : ∀ bs, (hash bs).length = 32)
    (h : Text.isBlankText s = false) : Text.IsDigest (anonymizeWith hash salt s) := by
  rw [anonymizeWith_of_not_blank h]
  exact Text.isDigest_hexText (hlen _)

theorem isBlankText_anonymizeWith (hlen : ∀ bs, (hash bs).length = 32) :
    Text.isBlankText (anonymizeWith hash salt s) = Text.isBlankText s := by
  cases h : Text.isBlankText s with
  | true => rw [anonymizeWith_blank h, h]
  | false => exact (isDigest_anonymizeWith hlen h).not_blank

theorem anonymizeWith_eq_iff (hlen : ∀ bs, (hash bs).length = 32) (hne : s ≠ t) :
    anonymizeWith hash salt s = anonymizeWith hash salt t ↔
      Text.isBlankText s = false ∧ Text.isBlankText t = false ∧
      salt.toBytes ++ Text.utf8 s ≠ salt.toBytes ++ Text.utf8 t ∧
      hash (salt.toBytes ++ Text.utf8 s) = hash (salt.toBytes ++ Text.utf8 t) := by
  constructor
  · intro h
    have blank : Text.isBlankText s = Text.isBlankText t := by
      rw [← isBlankText_anonymizeWith hlen, h, isBlankText_anonymizeWith hlen]
    cases hs : Text.isBlankText s with
    | true =>
      rw [anonymizeWith_blank hs, anonymizeWith_blank (blank ▸ hs)] at h
      exact absurd h hne
    | false =>
      have ht : Text.isBlankText t = false := blank ▸ hs
      rw [anonymizeWith_of_not_blank hs, anonymizeWith_of_not_blank ht, Text.hexText_inj] at h
      exact ⟨rfl, ht, mt Text.utf8_append_inj.1 hne, h⟩
  · rintro ⟨hs, ht, -, h⟩
    rw [anonymizeWith_of_not_blank hs, anonymizeWith_of_not_blank ht, h]

/-- For every digest of 32 bytes: what is not blank becomes a digest that no escaping changes, two
texts get one image just if neither is blank and their digests collide, and a salt can be given as
its bytes. -/
theorem anonymizing_keeps_apart (hlen : ∀ bs, (hash bs).length = 32) (salt : Salt) :
    (∀ s t, s ≠ t → (anonymizeWith hash salt s = anonymizeWith hash salt t ↔
      Text.isBlankText s = false ∧ Text.isBlankText t = false ∧
      salt.toBytes ++ Text.utf8 s ≠ salt.toBytes ++ Text.utf8 t ∧
      hash (salt.toBytes ++ Text.utf8 s) = hash (salt.toBytes ++ Text.utf8 t))) ∧
    (∀ s, Text.isBlankText s = false →
      Text.IsDigest (anonymizeWith hash salt s) ∧
      Text.isBlankText (anonymizeWith hash salt s) = false ∧
      Escape.id (anonymizeWith hash salt s) = anonymizeWith hash salt s ∧
      Escape.value (anonymizeWith hash salt s) = anonymizeWith hash salt s ∧
      Escape.name (anonymizeWith hash salt s) = anonymizeWith hash salt s) ∧
    ∀ key s, anonymizeWith hash (.text key) s = anonymizeWith hash (.bytes (Text.utf8 key)) s := by
  refine ⟨fun s t hne => anonymizeWith_eq_iff hlen hne, fun s hs => ?_,
    fun key _ => (anonymizeWith_bytes key).symm⟩
  have digest : Text.IsDigest (anonymizeWith hash salt s) := isDigest_anonymizeWith hlen hs
  exact ⟨digest, digest.not_blank, digest.id_eq, digest.value_eq, digest.name_eq⟩

end

def constantDigest (_ : List UInt8) : List UInt8 := List.replicate 32 0xAB

theorem userName_becomes_digest :
    (∀ bs, (constantDigest bs).length = 32) ∧ "user-42" ≠ "user-43" ∧
    anonymizeWith constantDigest (.text "salt") "user-42" =
      anonymizeWith constantDigest (.text "salt") "user-43" ∧
    Text.utf8 "salt" ++ Text.utf8 "user-42" ≠ Text.utf8 "salt" ++ Text.utf8 "user-43" ∧
    (∀ bs, (Sha256.hash bs).length = 32) ∧
    Text.isBlankText "user-42" = false ∧
    Text.IsDigest (anonymize (.text "salt") "user-42") ∧
    Escape.name (anonymize (.text "salt") "user-42") = anonymize (.text "salt") "user-42" ∧
    anonymize (.text "salt") "user-42" = anonymize (.bytes [115, 97, 108, 116]) "user-42" := by
  have constant : ∀ bs, (constantDigest bs).length = 32 := fun _ => rfl
  have differ : "user-42" ≠ "user-43" := by decide
  have bytes : Text.utf8 "salt" = [115, 97, 108, 116] := by decide
  have blank : Text.isBlankText "user-42" = false := by decide
  have other : Text.isBlankText "user-43" = false := by decide
  have images : anonymizeWith constantDigest (.text "salt") "user-42" =
      anonymizeWith constantDigest (.text "salt") "user-43" := by
    rw [anonymizeWith_of_not_blank blank, anonymizeWith_of_not_blank other]
    rfl
  obtain ⟨collide, -, -⟩ := anonymizing_keeps_apart constant (.text "salt")
  obtain ⟨-, written, salted⟩ := anonymizing_keeps_apart Sha256.length_hash (.text "salt")
  obtain ⟨digest, -, -, -, name⟩ := written "user-42" blank
  obtain ⟨-, -, apart, -⟩ := (collide _ _ differ).1 images
  exact ⟨constant, differ, images, apart, Sha256.length_hash, blank, digest, name,
    bytes ▸ salted "salt" "user-42"⟩

end Allowlist
