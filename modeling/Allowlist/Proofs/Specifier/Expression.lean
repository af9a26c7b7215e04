import Allowlist.Proofs.Pattern.Fragment
import Allowlist.Proofs.Specifier.Resolution

namespace Allowlist

open Pattern

namespace Specifier

def regexp? (s : Scope) (t : String) : Option String :=
  (read? t).bind fun p => if isRegexpKind p.kind then p.regexp? s else none

def fragment? (s : Scope) (t : String) : Option String :=
  match read? t with
  | none => some (Regexp.literal t)
  | some p => p.fragment? s

theorem expression_cons_ok {s : Scope} {t w : String} {ts : List String} :
    expression s (t :: ts) = .ok w ↔
      ∃ f e, fragment? s t = some f ∧ expression s ts = .ok e ∧ w = f ++ e := by
  simp only [expression, fragment?]
  cases read? t with
  | none => cases expression s ts <;> simp [bind, Except.bind, pure, Except.pure, eq_comm]
  | some p =>
    dsimp only
    cases p.fragment? s with
    | none => simp
    | some f => cases expression s ts <;> simp [bind, Except.bind, pure, Except.pure, eq_comm]

theorem expression_append_ok {s : Scope} {w : String} {ts us : List String} :
    expression s (ts ++ us) = .ok w ↔
      ∃ a b, expression s ts = .ok a ∧ expression s us = .ok b ∧ w = a ++ b := by
  induction ts generalizing w with
  | nil => simp [expression]
  | cons t ts ih =>
    simp only [List.cons_append, expression_cons_ok, ih]
    constructor
    · rintro ⟨f, _, hf, ⟨a, b, ha, hb, rfl⟩, rfl⟩
      exact ⟨f ++ a, b, ⟨f, a, hf, ha, rfl⟩, hb, (String.append_assoc ..).symm⟩
    · rintro ⟨_, b, ⟨f, a, hf, ha, rfl⟩, hb, rfl⟩
      exact ⟨f, a ++ b, hf, ⟨a, b, ha, hb, rfl⟩, String.append_assoc ..⟩

theorem fragment?_of_regexp? {s : Scope} {t e : String} (h : regexp? s t = some e) :
    fragment? s t = some ("(?:" ++ e ++ ")") := by
  obtain ⟨p, hp, he⟩ := Option.bind_eq_some_iff.1 h
  split at he
  · next hk => simp [fragment?, hp, Part.fragment?, ne_enum_of_isRegexpKind hk, hk, he]
  · cases he

theorem exists_fragment {s : Scope} {t f : String} (ht : regexp? s t = none)
    (hf : fragment? s t = some f) : ∃ g : Pattern.Fragment, Token.Spells f.toList g.tokens := by
  unfold fragment? at hf
  split at hf
  · cases hf
    exact ⟨.text t, Token.spells_literal t⟩
  · next p hp =>
    unfold Part.fragment? at hf
    split at hf
    · obtain ⟨vs, -, rfl⟩ := Option.map_eq_some_iff.1 hf
      exact ⟨.choice vs, Fragment.spells_choice vs⟩
    · split at hf
      · next hk =>
        have hnone : p.regexp? s = none := by simpa [regexp?, hp, hk] using ht
        simp [hnone] at hf
      · cases hf

theorem exists_fragments {s : Scope} {ts : List String} {e : String}
    (hts : ∀ t ∈ ts, regexp? s t = none) (he : expression s ts = .ok e) :
    ∃ gs : List Pattern.Fragment, Token.Spells e.toList (gs.flatMap Fragment.tokens) := by
  induction ts generalizing e with
  | nil =>
    cases he
    exact ⟨[], Token.spells_nil⟩
  | cons t ts ih =>
    obtain ⟨f, e', hf, he', rfl⟩ := expression_cons_ok.1 he
    obtain ⟨ht, hts⟩ := List.forall_mem_cons.1 hts
    obtain ⟨g, hg⟩ := exists_fragment ht hf
    obtain ⟨gs, hgs⟩ := ih hts he'
    rw [String.toList_append]
    exact ⟨g :: gs, hg.append hgs⟩

end Specifier

end Allowlist
