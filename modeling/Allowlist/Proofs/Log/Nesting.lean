import Allowlist.Log.Context

/-!
Programs of blocks. However blocks are nested and left, the variables are afterwards what they were
before. Inside, the group is that of the innermost block; the correlation id is the one that the
innermost block with an id gives, or the only one that was issued for the outermost block.
-/

namespace Allowlist.Log

/-- What a service does in blocks. A failure leaves all blocks up to the attempt around it. -/
inductive Program
  | look
  | fail
  | andThen (first second : Program)
  | attempt (body : Program)
  | block (group : String) (correlation : Option String) (body : Program)

structure Frame where
  group : String
  correlation : Option String
  issued : Nat

structure Sight where
  around : List Frame
  seen : Variables

structure Passage where
  before : Variables
  after : Variables

structure Report where
  after : Context
  sights : List Sight
  passages : List Passage
  failed : Bool

def Program.run (fresh : Nat → String) (around : List Frame) (c : Context) : Program → Report
  | look => ⟨c, [⟨around, c.now⟩], [], false⟩
  | fail => ⟨c, [], [], true⟩
  | andThen p q =>
    let r := p.run fresh around c
    if r.failed then r
    else
      let s := q.run fresh around r.after
      ⟨s.after, r.sights ++ s.sights, r.passages ++ s.passages, s.failed⟩
  | attempt p => { p.run fresh around c with failed := false }
  | block group correlation p =>
    let inside := c.enter fresh group correlation
    let r := p.run fresh (⟨group, correlation, c.issued⟩ :: around) inside
    let after := r.after.exit
    ⟨after, r.sights, r.passages ++ [⟨c.now, after.now⟩], r.failed⟩

def idInside? (fresh : Nat → String) (around : List Frame) : Option String :=
  (around.findSome? fun f => given? f.correlation).or
    (around.getLast?.map fun f => fresh f.issued)

def Variables.inside (fresh : Nat → String) (around : List Frame) : Variables where
  group := around.head?.map (·.group)
  correlation := idInside? fresh around
  bound := do return ⟨(← around.head?).group, ← idInside? fresh around⟩

theorem given?_eq_some {correlation : Option String} {id : String} :
    given? correlation = some id ↔ correlation = some id ∧ id ≠ "" := by
  simp [given?, Option.filter_eq_some_iff]

theorem given?_of_ne {id : String} (h : id ≠ "") : given? (some id) = some id :=
  given?_eq_some.2 ⟨rfl, h⟩

variable {fresh : Nat → String}

theorem idInside?_nil : idInside? fresh [] = none := rfl

theorem idInside?_singleton (f : Frame) :
    idInside? fresh [f] = some ((given? f.correlation).getD (fresh f.issued)) := by
  cases h : given? f.correlation <;> simp [idInside?, h]

theorem idInside?_cons_cons (f g : Frame) (around : List Frame) :
    idInside? fresh (f :: g :: around) =
      (given? f.correlation).or (idInside? fresh (g :: around)) := by
  cases h : given? f.correlation <;> simp [idInside?, h, List.findSome?_cons]

theorem exists_idInside? (f : Frame) (around : List Frame) :
    ∃ id, idInside? fresh (f :: around) = some id := by
  induction around generalizing f with
  | nil => exact ⟨_, idInside?_singleton f⟩
  | cons g around ih =>
    obtain ⟨id, h⟩ := ih g
    rw [idInside?_cons_cons, h]
    cases given? f.correlation <;> simp

namespace Program

theorem after_run (p : Program) (around : List Frame) (c : Context) :
    (p.run fresh around c).after = { c with issued := (p.run fresh around c).after.issued } := by
  induction p generalizing around c with
  | look => rfl
  | fail => rfl
  | andThen p q ihp ihq =>
    simp only [run]
    split
    · exact ihp around c
    · dsimp only
      rw [ihq, ihp]
  | attempt p ih => exact ih around c
  | block group correlation p ih =>
    simp only [run]
    rw [ih]
    simp [Context.exit]

theorem now_after_run (p : Program) (around : List Frame) (c : Context) :
    (p.run fresh around c).after.now = c.now := by
  rw [after_run]

theorem after_eq_of_mem_passages {p : Program} {around : List Frame} {c : Context} {x : Passage}
    (hx : x ∈ (p.run fresh around c).passages) : x.after = x.before := by
  induction p generalizing around c with
  | look => cases hx
  | fail => cases hx
  | andThen p q ihp ihq =>
    simp only [run] at hx
    split at hx
    · exact ihp hx
    · obtain hx | hx := List.mem_append.1 hx
      · exact ihp hx
      · exact ihq hx
  | attempt p ih => exact ih hx
  | block group correlation p ih =>
    obtain hx | hx := List.mem_append.1 hx
    · exact ih hx
    · obtain rfl := List.mem_singleton.1 hx
      -- the block itself is a program that is over
      exact now_after_run (.block group correlation p) around c

section Fresh

variable (hfresh : ∀ n, fresh n ≠ "")
include hfresh

theorem ne_of_idInside? {around : List Frame} {id : String} (h : idInside? fresh around = some id) :
    id ≠ "" := by
  obtain h | ⟨-, h⟩ := Option.or_eq_some_iff.1 h
  · obtain ⟨f, -, hf⟩ := List.exists_of_findSome?_eq_some h
    exact (given?_eq_some.1 hf).2
  · obtain ⟨f, -, rfl⟩ := Option.map_eq_some_iff.1 h
    exact hfresh f.issued

theorem given?_idInside? (around : List Frame) :
    given? (idInside? fresh around) = idInside? fresh around := by
  cases h : idInside? fresh around with
  | none => rfl
  | some id => exact given?_of_ne (ne_of_idInside? hfresh h)

theorem now_enter_inside {around : List Frame} {c : Context} (h : c.now = .inside fresh around)
    (group : String) (correlation : Option String) :
    (c.enter fresh group correlation).now =
      .inside fresh (⟨group, correlation, c.issued⟩ :: around) := by
  have hid : idInside? fresh (⟨group, correlation, c.issued⟩ :: around) = some
      (((given? correlation).or (given? c.now.correlation)).getD (fresh c.issued)) := by
    rw [h, Variables.inside, given?_idInside? hfresh]
    cases around with
    | nil => rw [idInside?_singleton, idInside?_nil, Option.or_none]
    | cons f around =>
      obtain ⟨id, hid⟩ := @exists_idInside? fresh f around
      rw [idInside?_cons_cons, hid]
      cases given? correlation <;> rfl
  rw [Context.now_enter, Variables.inside, hid]
  rfl

theorem seen_of_mem_sights {p : Program} {around : List Frame} {c : Context}
    (h : c.now = .inside fresh around) {s : Sight} (hs : s ∈ (p.run fresh around c).sights) :
    s.seen = .inside fresh s.around := by
  induction p generalizing around c with
  | look =>
    obtain rfl := List.mem_singleton.1 hs
    exact h
  | fail => cases hs
  | andThen p q ihp ihq =>
    simp only [run] at hs
    split at hs
    · exact ihp h hs
    · obtain hs | hs := List.mem_append.1 hs
      · exact ihp h hs
      · have hq : (p.run fresh around c).after.now = .inside fresh around := by
          rwa [now_after_run]
        exact ihq hq hs
  | attempt p ih => exact ih h hs
  | block group correlation p ih => exact ih (now_enter_inside hfresh h group correlation) hs

theorem exists_given?_enter (c : Context) (group : String) (correlation : Option String) :
    ∃ id, given? (c.enter fresh group correlation).now.correlation = some id := by
  rw [Context.now_enter, Variables.set]
  cases h : (given? correlation).or (given? c.now.correlation) with
  | none => exact ⟨_, given?_of_ne (hfresh c.issued)⟩
  | some id =>
    obtain h | ⟨-, h⟩ := Option.or_eq_some_iff.1 h
    · exact ⟨id, given?_of_ne (given?_eq_some.1 h).2⟩
    · exact ⟨id, given?_of_ne (given?_eq_some.1 h).2⟩

theorem issued_run {p : Program} {around : List Frame} {c : Context}
    (h : ∃ id, given? c.now.correlation = some id) :
    (p.run fresh around c).after.issued = c.issued := by
  induction p generalizing around c with
  | look => rfl
  | fail => rfl
  | andThen p q ihp ihq =>
    simp only [run]
    split
    · exact ihp h
    · have hq : ∃ id, given? (p.run fresh around c).after.now.correlation = some id := by
        rwa [now_after_run]
      exact (ihq hq).trans (ihp h)
  | attempt p ih => exact ih h
  | block group correlation p ih =>
    obtain ⟨id, hid⟩ := h
    simp only [run, Context.issued_exit]
    -- The block is open by now, so there is an id.
    rw [ih (exists_given?_enter hfresh c group correlation), Context.issued_enter, hid]
    cases given? correlation <;> rfl

theorem issued_block (p : Program) (around : List Frame) {c : Context} (h : c.now = .unset)
    (group : String) (correlation : Option String) :
    ((block group correlation p).run fresh around c).after.issued =
      c.issued + if (given? correlation).isNone then 1 else 0 := by
  simp only [run, Context.issued_exit]
  rw [issued_run hfresh (exists_given?_enter hfresh c group correlation), Context.issued_enter, h]
  cases given? correlation <;> rfl

/-- After each block the variables are what they were before it, however the block was left. Inside
of blocks they hold the group of the innermost one, and the id that the innermost one with an id
gives, or the only one that the outermost had issued. -/
theorem blocks_nest (p : Program) {c : Context} (h : c.now = .unset) :
    (p.run fresh [] c).after.now = c.now ∧
      (∀ x ∈ (p.run fresh [] c).passages, x.after = x.before) ∧
      (∀ s ∈ (p.run fresh [] c).sights, s.seen = .inside fresh s.around) ∧
      ∀ group correlation, ((block group correlation p).run fresh [] c).after.issued =
        c.issued + if (given? correlation).isNone then 1 else 0 :=
  ⟨now_after_run p [] c, fun _ => after_eq_of_mem_passages, fun _ => seen_of_mem_sights hfresh h,
    issued_block hfresh p [] h⟩

end Fresh

def sample : Program :=
  .block "a" none (.andThen
    (.attempt (.block "b" (some "x") (.andThen .look .fail)))
    (.andThen .look (.block "c" (some "") .look)))

def numbered (n : Nat) : String := "new" ++ toString n

theorem numbered_ne (n : Nat) : numbered n ≠ "" := by
  intro h
  simpa [numbered] using congrArg String.length h

theorem sample_nests : (∀ n, numbered n ≠ "") ∧ Context.empty.now = .unset ∧
    (sample.run numbered [] .empty).sights.map (·.seen) =
      [.set "b" "x", .set "a" "new0", .set "c" "new0"] ∧
    (sample.run numbered [] .empty).after.now = .unset ∧
    (∀ x ∈ (sample.run numbered [] .empty).passages, x.after = x.before) ∧
    (∀ s ∈ (sample.run numbered [] .empty).sights, s.seen = .inside numbered s.around) ∧
    ∀ group correlation, ((block group correlation sample).run numbered [] .empty).after.issued =
      0 + if (given? correlation).isNone then 1 else 0 :=
  ⟨numbered_ne, rfl, by decide +kernel, blocks_nest numbered_ne sample rfl⟩

end Program

end Allowlist.Log
