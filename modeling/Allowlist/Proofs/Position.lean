import Allowlist.Escape.Payload
import Allowlist.Proofs.Entries

/-!
Positions in values, and what stands at them. `Holds` follows entries whatever their keys, `at?`
looks keys up as a dictionary does.
-/

namespace Allowlist

def Value.items? : Value → Option (List Value)
  | .list vs => some vs
  | .tuple vs => some vs
  | _ => none

@[elab_as_elim]
theorem Value.induction {P : Value → Prop} (null : P .null) (leaf : ∀ s, P (.leaf s))
    (seq : ∀ v vs, v.items? = some vs → (∀ w ∈ vs, P w) → P v)
    (map : ∀ es, (∀ e ∈ es, P e.2) → P (.map es)) (v : Value) : P v := by
  refine @Value.rec P (fun vs => ∀ v ∈ vs, P v) (fun es => ∀ e ∈ es, P e.2) (fun e => P e.2)
    null leaf (fun vs => seq _ vs rfl) (fun vs => seq _ vs rfl) map ?_ ?_ ?_ ?_ ?_ v
  · simp
  · intro v vs hv hvs
    exact List.forall_mem_cons.2 ⟨hv, hvs⟩
  · simp
  · intro e es he hes
    exact List.forall_mem_cons.2 ⟨he, hes⟩
  · intro k v hv
    exact hv

inductive Step
  | index (i : Nat)
  | key (k : Key)

abbrev Position := List Step

def Step.escape : Step → Step
  | .index i => .index i
  | .key k => .key k.escape

namespace Value

def entries? : Value → Option Entries
  | .map es => some es
  | _ => none

def isAtom : Value → Bool
  | .null => true
  | .leaf _ => true
  | _ => false

theorem items?_eq_some {v : Value} {vs : List Value} :
    v.items? = some vs ↔ v = .list vs ∨ v = .tuple vs := by
  cases v <;> simp [items?]

/-- `L` holds of the leaves and `E` of the entries of maps, at every level. -/
inductive All (L : Scalar → Prop) (E : Entries → Prop) : Value → Prop
  | null : All L E .null
  | leaf {s} : L s → All L E (.leaf s)
  | seq {v vs} : v.items? = some vs → (∀ w ∈ vs, All L E w) → All L E v
  | map {es} : E es → (∀ e ∈ es, All L E e.2) → All L E (.map es)

namespace All

variable {L : Scalar → Prop} {E : Entries → Prop}

theorem scalar {s : Scalar} (h : All L E (.leaf s)) : L s := by
  cases h with
  | leaf h => exact h
  | seq hv => cases hv

theorem item {v w : Value} {vs : List Value} (h : All L E v) (hv : v.items? = some vs)
    (hw : w ∈ vs) : All L E w := by
  cases h with
  | null | leaf | map => cases hv
  | seq hv' h =>
    cases hv.symm.trans hv'
    exact h w hw

theorem entries {es : Entries} (h : All L E (.map es)) : E es := by
  cases h with
  | seq hv => cases hv
  | map h => exact h

theorem entry {es : Entries} {e : Key × Value} (h : All L E (.map es)) (he : e ∈ es) :
    All L E e.2 := by
  cases h with
  | seq hv => cases hv
  | map _ h => exact h e he

end All

/-- No two keys of a map name the same entry, as in every dictionary. -/
abbrev Keyed : Value → Prop := All (fun _ => True) Entries.Distinct

inductive Holds : Value → Position → Value → Prop
  | here {v} : Holds v [] v
  | item {v vs i w pos x} : v.items? = some vs → vs[i]? = some w → Holds w pos x →
      Holds v (.index i :: pos) x
  | entry {es k w pos x} : (k, w) ∈ es → Holds w pos x → Holds (.map es) (.key k :: pos) x

def at? (v : Value) : Position → Option Value
  | [] => some v
  | .index i :: pos => (v.items?.bind (·[i]?)).bind (·.at? pos)
  | .key k :: pos => (v.entries?.bind (Entries.get? k)).bind (·.at? pos)

theorem Holds.eq_of_atom {v : Value} {pos : Position} {x : Value} (h : v.Holds pos x)
    (hv : v.isAtom = true) : pos = [] ∧ x = v := by
  cases h with
  | here => exact ⟨rfl, rfl⟩
  | item hi => cases items?_eq_some.1 hi <;> simp_all [isAtom]
  | entry => simp [isAtom] at hv

theorem Holds.item_inv {v : Value} {vs : List Value} {pos : Position} {x : Value}
    (hi : v.items? = some vs) (h : v.Holds pos x) (hx : x.isAtom = true) :
    ∃ i w pos', pos = .index i :: pos' ∧ vs[i]? = some w ∧ w.Holds pos' x := by
  cases h with
  | here => cases items?_eq_some.1 hi <;> simp_all [isAtom]
  | item hi' hw h =>
    obtain rfl := Option.some.inj (hi.symm.trans hi')
    exact ⟨_, _, _, rfl, hw, h⟩
  | entry => simp [items?] at hi

theorem Holds.entry_inv {es : Entries} {pos : Position} {x : Value} (h : (map es).Holds pos x)
    (hx : x.isAtom = true) : ∃ k w pos', pos = .key k :: pos' ∧ (k, w) ∈ es ∧ w.Holds pos' x := by
  cases h with
  | here => simp [isAtom] at hx
  | item hi => simp [items?] at hi
  | entry hw h => exact ⟨_, _, _, rfl, hw, h⟩

end Value

end Allowlist
