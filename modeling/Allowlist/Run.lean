import Allowlist.Rule

/-!
Computations that evaluate rules. A run keeps the calls it made, in order, and ends with a result or
with the first failure; after a failure nothing is called.
-/

namespace Allowlist

structure Call where
  rule : Rule
  text : String
  context : Context

structure Run (α : Type) where
  calls : List Call
  result : Except Failure α

namespace Run

variable {α β : Type}

def pure (a : α) : Run α := ⟨[], .ok a⟩

def bind (r : Run α) (f : α → Run β) : Run β :=
  match r.result with
  | .error e => ⟨r.calls, .error e⟩
  | .ok a => ⟨r.calls ++ (f a).calls, (f a).result⟩

instance : Monad Run where
  pure := pure
  bind := bind

def lift (a : Except Failure α) : Run α := ⟨[], a⟩

def call (rule : Rule) (text : String) (ctx : Context) : Run Verdict :=
  ⟨[⟨rule, text, ctx⟩], rule.evaluate text ctx⟩

theorem ext {r s : Run α} (h : r.calls = s.calls) (h' : r.result = s.result) : r = s := by
  cases r; cases s; simp_all

theorem pure_eq (a : α) : (Pure.pure a : Run α) = ⟨[], .ok a⟩ := rfl

@[simp] theorem lift_ok (a : α) : lift (.ok a) = Pure.pure a := rfl

theorem bind_eq (r : Run α) (f : α → Run β) : r >>= f = r.bind f := rfl

@[simp] theorem pure_bind (a : α) (f : α → Run β) : (Pure.pure a >>= f) = f a := by
  simp [bind_eq, pure_eq, bind]

@[simp] theorem bind_ok {cs : List Call} {a : α} (f : α → Run β) :
    ((⟨cs, .ok a⟩ : Run α) >>= f) = ⟨cs ++ (f a).calls, (f a).result⟩ := rfl

@[simp] theorem bind_error {cs : List Call} {e : Failure} (f : α → Run β) :
    ((⟨cs, .error e⟩ : Run α) >>= f) = ⟨cs, .error e⟩ := rfl

theorem bind_assoc (r : Run α) {γ : Type} (f : α → Run β) (g : β → Run γ) :
    r >>= f >>= g = r >>= fun a => f a >>= g := by
  rcases r with ⟨cs, e | a⟩
  · rfl
  · rcases h : f a with ⟨ds, e | b⟩ <;> simp [h]

@[simp] theorem bind_pure (r : Run α) : (r >>= fun a => Pure.pure a) = r := by
  rcases r with ⟨cs, _ | a⟩ <;> simp [pure_eq]

end Run

end Allowlist
