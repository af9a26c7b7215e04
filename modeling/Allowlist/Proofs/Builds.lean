import Allowlist.Proofs.Numerals

namespace Allowlist

namespace Text

theorem digit?_of_isDigit {c : Char} (h : c.isDigit = true) :
    digit? c = some (c.toNat - '0'.toNat) := by
  obtain ⟨hlow, hhigh⟩ := Char.isDigit_iff_toNat.1 h
  have zero : (zeros.find? fun z => z ≤ c.toNat && c.toNat < z + 10) = some '0'.toNat := by
    rw [zeros, List.find?_cons_of_pos]
    · rfl
    · have : c.toNat < 48 + 10 := Nat.lt_succ_of_le hhigh
      simp [this, show 48 ≤ c.toNat from hlow]
  rw [digit?, zero]
  rfl

theorem spellsDigits_of_isDigit {cs : List Char} (hne : cs ≠ []) (h : ∀ c ∈ cs, c.isDigit = true) :
    SpellsDigits cs (cs.map fun c => c.toNat - '0'.toNat) := by
  induction cs with
  | nil => exact absurd rfl hne
  | cons c cs ih =>
    rw [List.forall_mem_cons] at h
    cases cs with
    | nil => exact .last (digit?_of_isDigit h.1)
    | cons c' cs => exact .next (digit?_of_isDigit h.1) (ih (List.cons_ne_nil c' cs) h.2)

def decimal (n : Nat) : List Nat := (Nat.toDigits 10 n).map fun c => c.toNat - '0'.toNat

theorem isDigit_toDigits (n : Nat) : ∀ c ∈ Nat.toDigits 10 n, c.isDigit = true :=
  fun _ hc => Nat.isDigit_of_mem_toDigits (by decide) (by decide) hc

theorem ofDigits_decimal (n : Nat) : ofDigits (decimal n) = n := by
  rw [ofDigits, decimal, List.foldl_map, ← Nat.ofDigitChars_eq_foldl,
    Nat.ofDigitChars_ten_toDigits]

theorem toList_toString (n : Int) : (toString n).toList =
    (if n < 0 then Sign.minus else Sign.bare).chars ++ Nat.toDigits 10 n.natAbs := by
  rw [Int.toString_eq_repr, Int.repr_eq_if]
  by_cases hn : n < 0
  · rw [if_neg (by omega), if_pos hn, show (-n).toNat = n.natAbs by omega]
    simp [Sign.chars]
  · rw [if_pos (by omega), if_neg hn, show n.toNat = n.natAbs by omega]
    simp [Sign.chars]

theorem spells_toString {n : Int} (h : (toString n.natAbs).length ≤ maxDigits) :
    Spells (toString n) n := by
  have digits : SpellsDigits (Nat.toDigits 10 n.natAbs) (decimal n.natAbs) :=
    spellsDigits_of_isDigit Nat.toDigits_ne_nil (isDigit_toDigits n.natAbs)
  have short : (decimal n.natAbs).length ≤ maxDigits := by
    rw [Nat.toString_eq_ofList_toDigits, String.length_ofList] at h
    rwa [decimal, List.length_map]
  have text := toList_toString n
  refine ⟨if n < 0 then .minus else .bare, decimal n.natAbs, ?_, ?_⟩
  · exact @Written.intro _ [] [] _ _ _ (by simpa using text) (by simp) (by simp) digits short
  · rw [ofDigits_decimal]
    split
    · simp only [Sign.apply]
      omega
    · simp only [Sign.apply]
      omega

theorem not_mem_toString (n : Int) : '.' ∉ (toString n).toList := by
  rw [toList_toString, List.mem_append, not_or]
  constructor
  · split <;> decide
  · intro h
    cases isDigit_toDigits n.natAbs '.' h

end Text

theorem build?_join {ns : List Int} (hne : ns ≠ [])
    (hlen : ∀ n ∈ ns, (toString n.natAbs).length ≤ Text.maxDigits) :
    build? (Text.join "." (ns.map toString)) = some ns := by
  have cut : Text.pieces '.' (Text.join "." (ns.map toString)) = ns.map toString := by
    apply Text.pieces_join (by simpa using hne)
    simpa using fun n _ => Text.not_mem_toString n
  rw [build?_eq_some_iff, cut, List.forall₂_map_left_iff, List.forall₂_same]
  exact fun n hn => Text.integer?_eq_some_iff.2 (Text.spells_toString (hlen n hn))

theorem length_of_build? {s : String} {ns : List Int} (h : build? s = some ns) :
    ns.length = s.toList.count '.' + 1 := by
  rw [← (build?_eq_some_iff.1 h).length_eq, Text.length_pieces]

theorem build?_eq_mapM (s : String) : build? s = (Text.pieces '.' s).mapM Text.integer? := by
  unfold build?
  split
  · next h =>
    subst h
    rfl
  · rfl

theorem build?_append (s t : String) :
    build? (s ++ "." ++ t) = do return (← build? s) ++ (← build? t) := by
  have cut : Text.pieces '.' (s ++ "." ++ t) = Text.pieces '.' s ++ Text.pieces '.' t :=
    Text.pieces_append '.' s t
  rw [build?_eq_mapM, cut, List.mapM_append, ← build?_eq_mapM, ← build?_eq_mapM]

/-- Decimal texts between dots are read back; each number that is read stands between two dots; and
a text with a dot in it is read before and after the dot. -/
theorem builds_are_read_back :
    (∀ ns : List Int, ns ≠ [] → (∀ n ∈ ns, (toString n.natAbs).length ≤ Text.maxDigits) →
      build? (Text.join "." (ns.map toString)) = some ns) ∧
    (∀ s ns, build? s = some ns → ns.length = s.toList.count '.' + 1) ∧
    ∀ s t, build? (s ++ "." ++ t) = do return (← build? s) ++ (← build? t) :=
  ⟨fun _ hne hlen => build?_join hne hlen, fun _ _ h => length_of_build? h, build?_append⟩

theorem signedBuild_is_read_back :
    Text.join "." (([241, -15989, 0] : List Int).map toString) = "241.-15989.0" ∧
    build? "241.-15989.0" = some [241, -15989, 0] ∧
    build? "241.-15989.0.SNAPSHOT" = none ∧
    build? "241.-15989.0. +1_0" = some [241, -15989, 0, 10] := by
  obtain ⟨back, -, parts⟩ := builds_are_read_back
  have text : Text.join "." (([241, -15989, 0] : List Int).map toString) = "241.-15989.0" := rfl
  have read : build? "241.-15989.0" = some [241, -15989, 0] :=
    text ▸ back [241, -15989, 0] (by simp) (by decide)
  refine ⟨text, read, ?_, ?_⟩
  · exact (parts "241.-15989.0" "SNAPSHOT").trans (by rw [read]; rfl)
  · exact (parts "241.-15989.0" " +1_0").trans (by rw [read]; rfl)

end Allowlist
