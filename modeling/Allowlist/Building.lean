import Allowlist.Notice
import Allowlist.Pattern.Token

namespace Allowlist

/-- What was reported while a thing was built, and what came of it. -/
structure Building (α : Type) where
  notices : List Notice
  result : Except Pattern.Mishap α

namespace Building

variable {α β γ : Type}

def pure (a : α) : Building α := ⟨[], .ok a⟩

def bind (b : Building α) (f : α → Building β) : Building β :=
  match b.result with
  | .error m => ⟨b.notices, .error m⟩
  | .ok a => ⟨b.notices ++ (f a).notices, (f a).result⟩

instance : Monad Building where
  pure := pure
  bind := bind

def tell (n : Notice) : Building Unit := ⟨[n], .ok ()⟩

theorem pure_eq (a : α) : (Pure.pure a : Building α) = ⟨[], .ok a⟩ := rfl

@[simp] theorem bind_ok {ns : List Notice} {a : α} (f : α → Building β) :
    ((⟨ns, .ok a⟩ : Building α) >>= f) = ⟨ns ++ (f a).notices, (f a).result⟩ := rfl

@[simp] theorem bind_error {ns : List Notice} {m : Pattern.Mishap} (f : α → Building β) :
    ((⟨ns, .error m⟩ : Building α) >>= f) = ⟨ns, .error m⟩ := rfl

instance : LawfulMonad Building :=
  LawfulMonad.mk' Building
    (fun b => by rcases b with ⟨ns, _ | a⟩ <;> simp [Functor.map, bind, pure])
    (fun a f => by simp [pure_eq])
    (fun b f g => by
      rcases b with ⟨ns, _ | a⟩
      · rfl
      · rcases h : f a with ⟨ms, _ | c⟩ <;> simp [h])

end Building

end Allowlist
