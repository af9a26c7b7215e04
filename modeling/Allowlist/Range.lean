import Allowlist.Text.Numeral
import Allowlist.Text.Pieces

namespace Allowlist

def build? (s : String) : Option (List Int) :=
  if s = "" then none else (Text.pieces '.' s).mapM Text.integer?

structure Range where
  lower : Option String
  upper : Option String
  deriving DecidableEq

namespace Range

inductive Bound (α : Type)
  | opened
  | at (a : α)
  | unreadable

def bound {α : Type} (read? : String → Option α) : Option String → Bound α
  | none => .opened
  | some s =>
    if s = "" then .opened
    else match read? s with
      | some a => .at a
      | none => .unreadable

def isBelow {α : Type} (lt : α → α → Bool) (a : α) : Bound α → Bool
  | .opened => true
  | .at b => lt a b
  | .unreadable => false

def isAbove {α : Type} (lt : α → α → Bool) (a : α) : Bound α → Bool
  | .opened => true
  | .at b => !lt a b
  | .unreadable => false

def has {α : Type} (read? : String → Option α) (lt : α → α → Bool) (r : Range) (a : α) : Bool :=
  isAbove lt a (bound read? r.lower) && isBelow lt a (bound read? r.upper)

def hasVersionNumber (r : Range) (n : Int) : Bool := r.has Text.integer? (fun a b => a < b) n

def hasVersion (r : Range) (version : Option String) : Bool :=
  (version.bind Text.integer?).any r.hasVersionNumber

def hasBuildNumber (r : Range) (n : List Int) : Bool := r.has build? (fun a b => a < b) n

def hasBuild (r : Range) (build : Option String) : Bool :=
  (build.bind build?).any r.hasBuildNumber

end Range

end Allowlist
