import Allowlist.Proofs.Pattern.Fragment

namespace Allowlist.Pattern

/-- What the groups of two readers have to do with each other: nothing, nothing that a reference
could tell, or they are the same. -/
inductive Bond
  | loose
  | apart
  | same
  deriving DecidableEq

def Alike : Bond → Pattern → Pattern → Prop
  | .loose, _, _ => True
  | .apart, p, q => ∀ W W', p.width W = q.width W'
  | .same, p, q => p = q

namespace Alike

variable {b : Bond} {p q p' q' : Pattern}

theorem refl (h : ∀ W W', p.width W = p.width W') : Alike b p p := by
  cases b with
  | loose => trivial
  | apart => exact h
  | same => rfl

theorem width_eq (hb : b ≠ .loose) (h : Alike b p q) {W W' : List (Nat × Width)}
    (hW : b = .same → W = W') : p.width W = q.width W' := by
  cases b with
  | loose => exact absurd rfl hb
  | apart => exact h W W'
  | same => rw [show p = q from h, hW rfl]

theorem around {ι : Type} {f : ι → Pattern → Pattern} {i j : ι} (h : Alike b p q)
    (hf : ∀ {W W'}, p.width W = q.width W' → (f i p).width W = (f j q).width W')
    (hij : b = .same → i = j) : Alike b (f i p) (f j q) := by
  cases b with
  | loose => trivial
  | apart => exact fun W W' => hf (h W W')
  | same =>
    obtain rfl : p = q := h
    obtain rfl := hij rfl
    rfl

theorem both {ι : Type} {f : ι → Pattern → Pattern → Pattern} {i j : ι} (hp : Alike b p q)
    (hp' : Alike b p' q')
    (hf : ∀ {W W'}, p.width W = q.width W' → p'.width W = q'.width W' →
      (f i p p').width W = (f j q q').width W')
    (hij : b = .same → i = j) : Alike b (f i p p') (f j q q') := by
  cases b with
  | loose => trivial
  | apart => exact fun W W' => hf (hp W W') (hp' W W')
  | same =>
    obtain rfl : p = q := hp
    obtain rfl : p' = q' := hp'
    obtain rfl := hij rfl
    rfl

theorem cat (hp : Alike b p q) (hp' : Alike b p' q') : Alike b (.cat p p') (.cat q q') :=
  hp.both hp' (i := ()) (j := ()) (f := fun (_ : Unit) => .cat)
    (fun h h' => by rw [width, width, h, h']) fun _ => rfl

theorem alt (hp : Alike b p q) (hp' : Alike b p' q') : Alike b (.alt p p') (.alt q q') :=
  hp.both hp' (i := ()) (j := ()) (f := fun (_ : Unit) => .alt)
    (fun h h' => by rw [width, width, h, h']) fun _ => rfl

theorem cond {m n : Nat} (hp : Alike b p q) (hp' : Alike b p' q') (hn : b = .same → m = n) :
    Alike b (.cond m p p') (.cond n q q') :=
  hp.both hp' (f := .cond) (fun h h' => by rw [width, width, h, h']) hn

theorem concat {ps qs : List Pattern} (h : List.Forall₂ (Alike b) ps qs) :
    Alike b (concat ps) (concat qs) := by
  induction h with
  | nil => exact refl fun _ _ => rfl
  | cons h hs ih =>
    cases hs with
    | nil => exact h
    | cons => exact h.cat ih

theorem choice {ps qs : List Pattern} (hp : Alike b p q) (h : List.Forall₂ (Alike b) ps qs) :
    Alike b (choice p ps) (choice q qs) := by
  induction h generalizing p q with
  | nil => exact hp
  | cons h _ ih => exact hp.alt (ih h)

end Alike

variable {b : Bond}

structure Level.Alike (b : Bond) (l m : Level) : Prop where
  mode : l.mode = m.mode
  alternatives : List.Forall₂ (Pattern.Alike b) l.alternatives m.alternatives
  items : List.Forall₂ (fun x y => x.1 = y.1 ∧ Pattern.Alike b x.2 y.2) l.items m.items

namespace Level.Alike

variable {l m : Level} {p q : Pattern}

theorem push (h : l.Alike b m) (r : Role) (hp : Pattern.Alike b p q) :
    (l.push r p).Alike b (m.push r q) :=
  ⟨h.mode, h.alternatives, .cons ⟨rfl, hp⟩ h.items⟩

theorem sequence (h : l.Alike b m) : Pattern.Alike b l.sequence m.sequence := by
  refine .concat ?_
  rw [List.forall₂_map_left_iff, List.forall₂_map_right_iff]
  exact (List.forall₂_reverse_iff.2 h.items).imp fun _ _ h => h.2

theorem body (h : l.Alike b m) : Pattern.Alike b l.body m.body := by
  have halternatives : List.Forall₂ (Pattern.Alike b) (l.alternatives.reverse ++ [l.sequence])
      (m.alternatives.reverse ++ [m.sequence]) :=
    List.rel_append (List.forall₂_reverse_iff.2 h.alternatives) (.cons h.sequence .nil)
  rw [Level.body, Level.body]
  generalize l.alternatives.reverse ++ [l.sequence] = ps at halternatives
  generalize m.alternatives.reverse ++ [m.sequence] = qs at halternatives
  cases halternatives with
  | nil => exact .refl fun _ _ => rfl
  | cons h hs => exact h.choice hs

end Level.Alike

inductive Opening.Alike (b : Bond) : Bool → Bool → Opening → Opening → Prop
  | bare {clear : Bool} : Opening.Alike b clear clear .bare .bare
  | capture {clear : Bool} {m n : Nat} (h : b = .same → m = n) :
      Opening.Alike b clear clear (.capture m) (.capture n)
  | atomic {clear : Bool} : Opening.Alike b clear clear .atomic .atomic
  | ahead {clear : Bool} (negated : Bool) :
      Opening.Alike b clear clear (.ahead negated) (.ahead negated)
  | behind {clear : Bool} (negated : Bool) :
      Opening.Alike b clear false (.behind negated clear) (.behind negated clear)
  | cond {clear : Bool} {m n : Nat} (h : b = .same → m = n) :
      Opening.Alike b clear clear (.cond m) (.cond n)

theorem Opening.Alike.ne_top {clear clear' : Bool} {o o' : Opening}
    (h : Opening.Alike b clear clear' o o') : o' ≠ .top := by
  rintro rfl
  cases h

/-- The open groups of a text that is read alone, and of the text in a group of the level `L`, and
whether no look behind is open. -/
inductive Stacked (b : Bond) (L : Level) :
    Bool → Level → List Level → Level → List Level → Prop
  | bottom {l m : Level} (htop : l.opening = .top) (hbare : m.opening = .bare)
      (hmode : l.mode = .initial) (h : l.Alike b m) : Stacked b L true l [] m [L]
  | above {clear clear' : Bool} {l m l' m' : Level} {ls ms : List Level}
      (ho : Opening.Alike b clear clear' l.opening m.opening) (h : l.Alike b m)
      (hs : Stacked b L clear l' ls m' ms) : Stacked b L clear' l (l' :: ls) m (m' :: ms)

namespace Stacked

variable {L l m : Level} {ls ms : List Level} {clear : Bool}

theorem alike (h : Stacked b L clear l ls m ms) : l.Alike b m := by
  cases h with
  | bottom _ _ _ h => exact h
  | above _ h _ => exact h

theorem ne_nil (h : Stacked b L clear l ls m ms) : ms ≠ [] := by
  cases h <;> exact List.cons_ne_nil _ _

theorem exists_cond (h : Stacked b L clear l ls m ms) {k : Nat} (hl : l.opening = .cond k) :
    ∃ n, m.opening = .cond n := by
  cases h with
  | bottom htop _ _ _ =>
    rw [htop] at hl
    cases hl
  | above ho _ _ =>
    generalize m.opening = o at ho
    rw [hl] at ho
    cases ho
    exact ⟨_, rfl⟩

theorem exists_below (h : Stacked b L clear l ls m ms) (hls : ls ≠ []) :
    ∃ below l' ls' m' ms', ls = l' :: ls' ∧ ms = m' :: ms' ∧
      Opening.Alike b below clear l.opening m.opening ∧ Stacked b L below l' ls' m' ms' := by
  cases h with
  | bottom => exact absurd rfl hls
  | above ho _ hs => exact ⟨_, _, _, _, _, rfl, rfl, ho, hs⟩

theorem not_isFresh (h : Stacked b L clear l ls m ms) : m.isFresh = false := by
  have hopening : m.opening ≠ .top := by
    cases h with
    | bottom _ hbare _ _ => simp [hbare]
    | above ho _ _ => exact ho.ne_top
  cases hm : m.opening with
  | top => exact absurd hm hopening
  | _ => simp [Level.isFresh, hm]

theorem replace (h : Stacked b L clear l ls m ms) {l' m' : Level} (hl : l'.opening = l.opening)
    (hm : m'.opening = m.opening) (hmode : l'.mode = l.mode) (h' : l'.Alike b m') :
    Stacked b L clear l' ls m' ms := by
  cases h with
  | bottom htop hbare hinitial _ =>
    exact .bottom (hl.trans htop) (hm.trans hbare) (hmode.trans hinitial) h'
  | above ho _ hs => exact .above (hl ▸ hm ▸ ho) h' hs

end Stacked

/-- The reader `r` reads a text alone, and `s` reads it in a group that `base` has opened. -/
structure Beside (b : Bond) (base r s : Reader) : Prop where
  glossary : r.glossary = base.glossary ∧ s.glossary = base.glossary
  stacked : Stacked b base.level r.horizon.isNone r.level r.outer s.level s.outer
  horizon : r.horizon.isNone = s.horizon.isNone
  unicode : r.unicode = false ∧ s.unicode = false
  template : r.template = false ∧ s.template = false
  known : b = .same → r.groups = s.groups ∧ r.names = s.names ∧ r.widths = s.widths ∧
    r.horizon = s.horizon ∧ r.awaited = s.awaited
  names : b ≠ .loose → ∀ name, s.names.lookup name = none → r.names.lookup name = none
  awaited : b = .apart → r.awaited = []
  unfit : b ≠ .loose → r.unfit = true → s.unfit = true

/-- What the reader in the group does the other one does as well, unless it lacks a group. -/
def Follows (b : Bond) (base : Reader) (alone inside : Step) : Prop :=
  ∀ s' rest, inside = .ok (s', rest) →
    (∃ r', alone = .ok (r', rest) ∧ Beside b base r' s') ∨ b = .loose ∧ ∃ e, alone = .error e

theorem follows_error (alone : Step) (base : Reader) (e : Error) :
    Follows b base alone (.error e) := by
  intro s' rest h
  cases h

theorem follows_lack {base : Reader} (hb : b ≠ .apart) {inside : Step} {e : Error}
    (hsame : b = .same → ∃ e', inside = .error e') : Follows b base (.error e) inside := by
  cases b with
  | apart => exact absurd rfl hb
  | loose => exact fun _ _ _ => .inr ⟨rfl, e, rfl⟩
  | same =>
    obtain ⟨e', rfl⟩ := hsame rfl
    exact follows_error _ _ _

/-- What refers to a group: a number or a name, or a condition. -/
def IsReference : List Token → Prop
  | .escaped c :: _ => c.isDigit = true ∧ c ≠ '0'
  | .char '(' :: .char '?' :: .char 'P' :: .char '=' :: _ => True
  | .char '(' :: .char '?' :: .char '(' :: _ => True
  | _ => False

theorem Reader.bar?_ok {r r' : Reader} {ts rest : List Token} :
    r.bar? ts = .ok (r', rest) ↔
      (∀ n, r.level.opening = .cond n → r.level.alternatives = []) ∧ r' = r.branch ∧ rest = ts := by
  unfold Reader.bar?
  dsimp only
  split
  · next n p ps hn hps =>
    simp only [reduceCtorEq, false_iff, not_and]
    intro h
    rw [h n hn] at hps
    cases hps
  · next hroom =>
    simp only [Except.ok.injEq, Prod.mk.injEq]
    constructor
    · rintro ⟨rfl, rfl⟩
      refine ⟨fun n hn => ?_, rfl, rfl⟩
      cases ha : r.level.alternatives with
      | nil => rfl
      | cons p ps => exact (hroom n p ps hn ha).elim
    · rintro ⟨-, rfl, rfl⟩
      exact ⟨rfl, rfl⟩

namespace Beside

variable {base : Reader} {r s : Reader} {p q : Pattern} {ts : List Token}

theorem mode (h : Beside b base r s) : r.mode = s.mode := h.stacked.alike.mode

theorem follows (h : Beside b base r s) : Follows b base (.ok (r, ts)) (.ok (s, ts)) := by
  intro s' rest hs
  cases hs
  exact .inl ⟨r, rfl, h⟩

theorem push (h : Beside b base r s) (role : Role) (hp : Alike b p q) :
    Beside b base (r.push role p) (s.push role q) :=
  { h with stacked := h.stacked.replace rfl rfl rfl (h.stacked.alike.push role hp) }

theorem pushChar (h : Beside b base r s) (c : CharSet) :
    Beside b base (r.pushChar c) (s.pushChar c) := by
  rw [Reader.pushChar, Reader.pushChar, h.mode]
  exact h.push .plain (.refl fun _ _ => rfl)

theorem pushCode (h : Beside b base r s) (n : Nat) : Beside b base (r.pushCode n) (s.pushCode n) :=
  h.pushChar (.code n)

theorem pushAnchor (h : Beside b base r s) (a : Anchor) :
    Beside b base (r.push .anchor (.anchor r.mode a)) (s.push .anchor (.anchor s.mode a)) := by
  rw [h.mode]
  exact h.push .anchor (.refl fun _ _ => rfl)

theorem openLevel (h : Beside b base r s) {o o' : Opening}
    (ho : Opening.Alike b r.horizon.isNone r.horizon.isNone o o') {m m' : Mode} (hm : m = m') :
    Beside b base (r.openLevel o m) (s.openLevel o' m') :=
  { h with stacked := .above ho ⟨hm, .nil, .nil⟩ h.stacked }

theorem isInSight_eq (h : Beside .same base r s) (n : Nat) : r.isInSight n = s.isInSight n := by
  obtain ⟨-, -, hwidths, hhorizon, -⟩ := h.known rfl
  rw [Reader.isInSight, Reader.isInSight, hwidths, hhorizon]

theorem pushBackref? (h : Beside b base r s) (hb : b ≠ .apart) {m n : Nat}
    (hn : b = .same → m = n) : Follows b base (r.pushBackref? m ts) (s.pushBackref? n ts) := by
  by_cases hs : ((s.widths.lookup n).isSome && s.isInSight n) = true
  · rw [Reader.pushBackref?, Reader.pushBackref?, if_pos hs]
    by_cases hr : ((r.widths.lookup m).isSome && r.isInSight m) = true
    · rw [if_pos hr]
      refine follows (h.push .plain ?_)
      cases b with
      | apart => exact absurd rfl hb
      | loose => trivial
      | same => rw [h.mode, hn rfl]; rfl
    · rw [if_neg hr]
      refine follows_lack hb fun e => ?_
      subst e
      obtain ⟨-, -, hwidths, -⟩ := h.known rfl
      rw [hn rfl, h.isInSight_eq, hwidths] at hr
      exact absurd hs hr
  · have hinside : s.pushBackref? n ts = .error .malformed := by
      rw [Reader.pushBackref?, if_neg hs]
    rw [hinside]
    exact follows_error _ _ _

theorem numbered? (h : Beside b base r s) {c : Char} (hb : b = .apart → c = '0') :
    Follows b base (r.numbered? c ts) (s.numbered? c ts) := by
  by_cases hzero : c = '0'
  · rw [Reader.numbered?, Reader.numbered?, if_pos hzero, if_pos hzero]
    exact (h.pushCode _).follows
  have hb' : b ≠ .apart := fun e => hzero (hb e)
  rw [Reader.numbered?, Reader.numbered?, if_neg hzero, if_neg hzero]
  split
  · split
    · dsimp only
      split
      · split
        · exact (h.pushCode _).follows
        · exact follows_error _ _ _
      · exact h.pushBackref? hb' fun _ => rfl
    · exact h.pushBackref? hb' fun _ => rfl
  · exact h.pushBackref? hb' fun _ => rfl

theorem escape? (h : Beside b base r s) {c : Char} (hb : b = .apart → c.isDigit = true → c = '0') :
    Follows b base (r.escape? c ts) (s.escape? c ts) := by
  unfold Reader.escape?
  split
  · exact (h.pushAnchor _).follows
  · exact (h.pushChar _).follows
  · split
    · next hd => exact h.numbered? fun e => hb e hd
    · rw [h.glossary.1, h.glossary.2]
      cases Token.code? base.glossary c ts with
      | error e => exact follows_error _ _ _
      | ok x => exact (h.pushCode x.1).follows

theorem repeat? (h : Beside b base r s) (least : Nat) (most : Option Nat) :
    Follows b base (r.repeat? least most ts) (s.repeat? least most ts) := by
  have hitems := h.stacked.alike.items
  cases hr : r.level.items with
  | nil =>
    rw [hr, List.forall₂_nil_left_iff] at hitems
    simp only [Reader.repeat?, hitems]
    exact follows_error _ _ _
  | cons x xs =>
    rw [hr] at hitems
    obtain ⟨y, ys, ⟨hrole, hp⟩, htail, hs⟩ := List.forall₂_cons_left_iff.1 hitems
    obtain ⟨role, p⟩ := x
    obtain ⟨role', q⟩ := y
    obtain rfl : role = role' := hrole
    cases role with
    | plain =>
      simp only [Reader.repeat?, hr, hs]
      refine Beside.follows { h with stacked := h.stacked.replace rfl rfl rfl ?_ }
      have hloop : Alike b (.loop (Reader.greed ts).1 least most p)
          (.loop (Reader.greed ts).1 least most q) :=
        hp.around (i := ()) (j := ()) (f := fun (_ : Unit) => .loop _ least most)
          (fun hw => by rw [width, width, hw]) fun _ => rfl
      exact ⟨h.mode, h.stacked.alike.alternatives, .cons ⟨rfl, hloop⟩ htail⟩
    | anchor =>
      simp only [Reader.repeat?, hs]
      exact follows_error _ _ _
    | repeated =>
      simp only [Reader.repeat?, hs]
      exact follows_error _ _ _

theorem brace? (h : Beside b base r s) : Follows b base (r.brace? ts) (s.brace? ts) := by
  unfold Reader.brace?
  split
  · exact (h.pushCode _).follows
  · next lo hi rest _ =>
    cases Reader.bound? rest lo with
    | error e => exact follows_error _ _ _
    | ok least =>
      cases Reader.bound? rest hi with
      | error e => exact follows_error _ _ _
      | ok most =>
        rw [exceptOk_bind, exceptOk_bind, exceptOk_bind, exceptOk_bind]
        split
        · exact h.repeat? _ _
        · exact follows_error _ _ _

theorem openCapture (h : Beside b base r s) :
    Follows b base (.ok (r.openCapture ts)) (.ok (s.openCapture ts)) := by
  have hopen : Beside b base (r.openLevel (.capture r.groups) r.mode)
      (s.openLevel (.capture s.groups) s.mode) :=
    h.openLevel (.capture fun e => (h.known e).1) h.mode
  refine Beside.follows { hopen with known := fun e => ?_ }
  exact ⟨congrArg (· + 1) (h.known e).1, (h.known e).2⟩

theorem openNamed? (h : Beside b base r s) :
    Follows b base (r.openNamed? ts) (s.openNamed? ts) := by
  unfold Reader.openNamed?
  split
  · next name rest _ =>
    dsimp only
    by_cases hs : (Text.isName name && (s.names.lookup (String.ofList name)).isNone) = true
    · rw [if_pos hs]
      by_cases hr : (Text.isName name && (r.names.lookup (String.ofList name)).isNone) = true
      · rw [if_pos hr]
        refine openCapture { h with known := fun e => ?_, names := fun hb other hother => ?_ }
        · obtain ⟨hgroups, hnames, hrest⟩ := h.known e
          exact ⟨hgroups, by rw [hgroups, hnames], hrest⟩
        · rw [List.lookup_cons] at hother ⊢
          split at hother
          · cases hother
          · exact h.names hb other hother
      · rw [if_neg hr]
        intro s' rest _
        rw [Bool.and_eq_true, Option.isNone_iff_eq_none] at hs hr
        by_cases hb : b = .loose
        · exact .inr ⟨hb, _, rfl⟩
        · exact absurd ⟨hs.1, h.names hb _ hs.2⟩ hr
    · rw [if_neg hs]
      exact follows_error _ _ _
  · exact follows_error _ _ _

theorem namedBackref? (h : Beside b base r s) (hb : b ≠ .apart) :
    Follows b base (r.namedBackref? ts) (s.namedBackref? ts) := by
  unfold Reader.namedBackref?
  split
  · next name rest _ =>
    have heq : b = .same →
        r.names.lookup (String.ofList name) = s.names.lookup (String.ofList name) := fun e => by
      rw [(h.known e).2.1]
    cases hs : s.names.lookup (String.ofList name) with
    | none => exact follows_error _ _ _
    | some n =>
      cases hr : r.names.lookup (String.ofList name) with
      | none => exact follows_lack hb fun e => by simp [hr, hs] at heq; exact absurd e heq
      | some m =>
        rw [hr, hs, Option.some.injEq] at heq
        exact h.pushBackref? hb heq
  · exact follows_error _ _ _

theorem openBehind (h : Beside b base r s) (negated : Bool) :
    Beside b base (r.openBehind negated) (s.openBehind negated) := by
  have hbehind : Opening.Alike b r.horizon.isNone false (.behind negated r.horizon.isNone)
      (.behind negated s.horizon.isNone) := h.horizon ▸ .behind negated
  have hstacked : Stacked b base.level false (r.openBehind negated).level
      (r.openBehind negated).outer (s.openBehind negated).level (s.openBehind negated).outer :=
    .above hbehind ⟨h.mode, .nil, .nil⟩ h.stacked
  refine { h with stacked := hstacked, horizon := rfl, known := fun e => ?_ }
  obtain ⟨hgroups, hnames, hwidths, hhorizon, hawaited⟩ := h.known e
  exact ⟨hgroups, hnames, hwidths, by simp [Reader.openBehind, hgroups, hhorizon], hawaited⟩

theorem condition?_eq (h : Beside .same base r s) (name : List Char) :
    r.condition? name = s.condition? name := by
  rw [Reader.condition?, Reader.condition?, (h.known rfl).2.1]

theorem openCondition? (h : Beside b base r s) (hb : b ≠ .apart) :
    Follows b base (r.openCondition? ts) (s.openCondition? ts) := by
  unfold Reader.openCondition?
  split
  · next name rest _ =>
    have heq : b = .same → r.condition? name = s.condition? name := by
      rintro rfl
      exact h.condition?_eq name
    cases hs : s.condition? name with
    | none => exact follows_error _ _ _
    | some y =>
    obtain ⟨n, awaited'⟩ := y
    by_cases hsight : s.isInSight n = true
    · cases hr : r.condition? name with
      | none => exact follows_lack hb fun e => by simp [hr, hs] at heq; exact absurd e heq
      | some x =>
        obtain ⟨m, awaited⟩ := x
        rw [hr, hs, Option.some.injEq, Prod.mk.injEq] at heq
        dsimp only
        rw [if_pos hsight]
        by_cases hsight' : r.isInSight m = true
        · rw [if_pos hsight']
          have hopen :
              Beside b base (r.openLevel (.cond m) r.mode) (s.openLevel (.cond n) s.mode) :=
            h.openLevel (.cond fun e => (heq e).1) h.mode
          refine Beside.follows
            { hopen with known := fun e => ?_, awaited := fun e => absurd e hb }
          obtain ⟨hgroups, hnames, hwidths, hhorizon, hawaited⟩ := h.known e
          exact ⟨hgroups, hnames, hwidths, hhorizon, by rw [(heq e).2, hawaited]⟩
        · rw [if_neg hsight']
          refine follows_lack hb fun e => ?_
          subst e
          rw [h.isInSight_eq, (heq rfl).1] at hsight'
          exact absurd hsight hsight'
    · dsimp only
      rw [if_neg hsight]
      exact follows_error _ _ _
  · exact follows_error _ _ _

theorem globalFlags? (h : Beside b base r s) (on : List Char) :
    Follows b base (r.globalFlags? on ts) (s.globalFlags? on ts) := by
  have hinside : s.globalFlags? on ts = .error .malformed := by
    rw [Reader.globalFlags?, if_neg (by simp [h.stacked.not_isFresh])]
  rw [hinside]
  exact follows_error _ _ _

theorem openFlags? (h : Beside b base r s) (on off : List Char) :
    Follows b base (r.openFlags? on off ts) (s.openFlags? on off ts) := by
  unfold Reader.openFlags?
  split
  · exact follows_error _ _ _
  · exact (h.openLevel .bare (by rw [h.mode])).follows

theorem flags? (h : Beside b base r s) : Follows b base (r.flags? ts) (s.flags? ts) := by
  unfold Reader.flags?
  dsimp only
  split
  · exact follows_error _ _ _
  split
  · exact h.globalFlags? _
  · exact h.openFlags? _ _
  · split
    · exact h.openFlags? _ _
    · exact follows_error _ _ _
  · exact follows_error _ _ _

theorem extension? (h : Beside b base r s)
    (hb : b = .apart → ¬IsReference (.char '(' :: .char '?' :: ts)) :
    Follows b base (r.extension? ts) (s.extension? ts) := by
  unfold Reader.extension?
  split
  · exact (h.openLevel .bare h.mode).follows
  · exact h.openNamed?
  · exact h.namedBackref? fun e => hb e trivial
  · split
    · exact h.follows
    · exact follows_error _ _ _
  · exact (h.openLevel (.ahead false) h.mode).follows
  · exact (h.openLevel (.ahead true) h.mode).follows
  · exact (h.openBehind false).follows
  · exact (h.openBehind true).follows
  · exact h.openCondition? fun e => hb e trivial
  · exact (h.openLevel .atomic h.mode).follows
  · exact h.flags?

theorem open? (h : Beside b base r s) (hb : b = .apart → ¬IsReference (.char '(' :: ts)) :
    Follows b base (r.open? ts) (s.open? ts) := by
  unfold Reader.open?
  split
  · exact h.extension? hb
  · exact h.openCapture

theorem branch (h : Beside b base r s) : Beside b base r.branch s.branch :=
  have halike := h.stacked.alike
  have hlevel : r.branch.level.Alike b s.branch.level :=
    ⟨halike.mode, .cons halike.sequence halike.alternatives, .nil⟩
  { h with stacked := h.stacked.replace rfl rfl rfl hlevel }

theorem bar? (h : Beside b base r s) : Follows b base (r.bar? ts) (s.bar? ts) := by
  intro s' rest hs
  obtain ⟨hroom, rfl, rfl⟩ := Reader.bar?_ok.1 hs
  refine .inl ⟨r.branch, Reader.bar?_ok.2 ⟨?_, rfl, rfl⟩, h.branch⟩
  intro n hn
  obtain ⟨m, hm⟩ := h.stacked.exists_cond hn
  have halternatives := h.stacked.alike.alternatives
  rw [hroom m hm] at halternatives
  exact List.forall₂_nil_right_iff.1 halternatives

section Closing

variable {l m : Level} {ls ms : List Level} {clear : Bool}

theorem closeWith (h : Beside b base r s) (hs : Stacked b base.level r.horizon.isNone l ls m ms)
    (hp : Alike b p q) : Beside b base (r.closeWith l ls p) (s.closeWith m ms q) :=
  { h with stacked := hs.replace rfl rfl rfl (hs.alike.push .plain hp) }

theorem width_eq (h : Beside b base r s) (hb : b ≠ .loose) :
    r.level.body.width r.widths = s.level.body.width s.widths :=
  h.stacked.alike.body.width_eq hb fun e => (h.known e).2.2.1

theorem closeCapture (h : Beside b base r s)
    (hs : Stacked b base.level r.horizon.isNone l ls m ms) {i j : Nat} (hij : b = .same → i = j) :
    Beside b base
      { r.closeWith l ls (.group i r.level.body) with
        widths := (i, r.level.body.width r.widths) :: r.widths }
      { s.closeWith m ms (.group j s.level.body) with
        widths := (j, s.level.body.width s.widths) :: s.widths } := by
  have hgroup : Alike b (.group i r.level.body) (.group j s.level.body) :=
    h.stacked.alike.body.around (f := .group) id hij
  refine { h.closeWith hs hgroup with known := fun e => ?_ }
  obtain ⟨hgroups, hnames, hwidths, hhorizon, hawaited⟩ := h.known e
  refine ⟨hgroups, hnames, ?_, hhorizon, hawaited⟩
  rw [hij e, h.width_eq (by simp [e]), hwidths]

theorem closeBehind (h : Beside b base r s) (hs : Stacked b base.level clear l ls m ms)
    (negated : Bool) (hopen : r.horizon.isNone = false) :
    Beside b base
      { r.closeWith l ls (.look (some (r.level.body.width r.widths).least) negated r.level.body)
        with
        horizon := if clear then none else r.horizon,
        unfit := r.unfit || !Reader.isFit (r.level.body.width r.widths) }
      { s.closeWith m ms (.look (some (s.level.body.width s.widths).least) negated s.level.body)
        with
        horizon := if clear then none else s.horizon,
        unfit := s.unfit || !Reader.isFit (s.level.body.width s.widths) } := by
  have hclear : clear = (if clear then none else r.horizon).isNone := by
    cases clear <;> simp [hopen]
  have hlook : Alike b
      (.look (some (r.level.body.width r.widths).least) negated r.level.body)
      (.look (some (s.level.body.width s.widths).least) negated s.level.body) :=
    h.stacked.alike.body.around (f := fun i p => .look i negated p) (fun _ => rfl) fun e => by
      rw [h.width_eq (by simp [e])]
  refine
    { h with
      stacked := ?_
      horizon := ?_
      known := fun e => ?_
      unfit := fun hb hu => ?_ }
  · rw [← hclear]
    exact hs.replace rfl rfl rfl (hs.alike.push .plain hlook)
  · cases clear <;> simp [← h.horizon]
  · obtain ⟨hgroups, hnames, hwidths, hhorizon, hawaited⟩ := h.known e
    exact ⟨hgroups, hnames, hwidths, by rw [hhorizon], hawaited⟩
  · rw [h.width_eq hb, Bool.or_eq_true] at hu
    rw [Bool.or_eq_true]
    exact hu.imp_left (h.unfit hb)

theorem close? (h : Beside b base r s) (hout : r.outer ≠ []) :
    Follows b base (r.close? ts) (s.close? ts) := by
  obtain ⟨clear, l, ls, m, ms, hl, hm, ho, hs⟩ := h.stacked.exists_below hout
  have hbody := h.stacked.alike.body
  generalize hclear : r.horizon.isNone = clear' at ho
  generalize hro : r.level.opening = o at ho
  generalize hso : s.level.opening = o' at ho
  simp only [Reader.close?, hl, hm, hro, hso]
  cases ho with
  | bare => exact (h.closeWith (hclear ▸ hs) hbody).follows
  | capture hij => exact (h.closeCapture (hclear ▸ hs) hij).follows
  | atomic =>
    have hatomic : Alike b (.atomic r.level.body) (.atomic s.level.body) :=
      hbody.around (i := ()) (j := ()) (f := fun _ => .atomic) id fun _ => rfl
    exact (h.closeWith (hclear ▸ hs) hatomic).follows
  | ahead negated =>
    have hlook : Alike b (.look none negated r.level.body) (.look none negated s.level.body) :=
      hbody.around (f := fun i p => .look i negated p) (fun _ => rfl) fun _ => rfl
    exact (h.closeWith (hclear ▸ hs) hlook).follows
  | behind negated => exact (h.closeBehind hs negated hclear).follows
  | cond hij =>
    have hsequence := h.stacked.alike.sequence
    have halternatives := h.stacked.alike.alternatives
    refine (h.closeWith (hclear ▸ hs) ?_).follows
    cases hr : r.level.alternatives with
    | nil =>
      rw [hr, List.forall₂_nil_left_iff] at halternatives
      rw [halternatives]
      exact .cond hsequence (.refl fun _ _ => rfl) hij
    | cons yes _ =>
      rw [hr, List.forall₂_cons_left_iff] at halternatives
      obtain ⟨yes', _, hyes, -, hs⟩ := halternatives
      rw [hs]
      exact .cond hyes hsequence hij

end Closing

theorem char? (h : Beside b base r s) {c : Char}
    (hb : b = .apart → ¬IsReference (.char c :: ts)) (hout : c = ')' → r.outer ≠ []) :
    Follows b base (r.char? c ts) (s.char? c ts) := by
  unfold Reader.char?
  rw [← h.mode]
  split
  · exact h.follows
  split
  · exact h.follows
  split
  · rw [h.glossary.1, h.glossary.2]
    cases charSet? base.glossary ts with
    | error e => exact follows_error _ _ _
    | ok x => exact (h.pushChar x.1).follows
  · exact h.repeat? _ _
  · exact h.repeat? _ _
  · exact h.repeat? _ _
  · exact h.brace?
  · exact (h.pushChar _).follows
  · exact h.open? hb
  · exact h.close? (hout rfl)
  · exact h.bar?
  · exact (h.push .anchor (.refl fun _ _ => rfl)).follows
  · exact (h.push .anchor (.refl fun _ _ => rfl)).follows
  · exact (h.pushCode _).follows

theorem step? (h : Beside b base r s) {t : Token} (hb : b = .apart → ¬IsReference (t :: ts))
    (hout : t = .char ')' → r.outer ≠ []) : Follows b base (r.step? t ts) (s.step? t ts) := by
  cases t with
  | char c => exact h.char? hb fun e => hout (congrArg _ e)
  | escaped c =>
    exact h.escape? fun e hd => by_contra fun hzero => hb e ⟨hd, hzero⟩
  | lone => exact follows_error _ _ _

end Beside

end Allowlist.Pattern
