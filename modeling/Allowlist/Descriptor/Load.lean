import Allowlist.Descriptor
import Allowlist.Text.Utf8
import Allowlist.Value.Display

/-!
Loading descriptors from a decoded document. Every place that does not fit is reported, by its path
and never by its content; entries that are not asked for are ignored.
-/

namespace Allowlist

abbrev Location := List String

/-- What was read, or all places that do not fit, in order. -/
inductive Loaded (α : Type)
  | ok (a : α)
  | invalid (at_ : List Location)

namespace Loaded

variable {α β : Type}

def errors : Loaded α → List Location
  | ok _ => []
  | invalid ls => ls

def map (f : α → β) : Loaded α → Loaded β
  | ok a => ok (f a)
  | invalid ls => invalid ls

def ap : Loaded (α → β) → Loaded α → Loaded β
  | ok f, x => x.map f
  | invalid ls, x => invalid (ls ++ x.errors)

instance : Applicative Loaded where
  pure := ok
  map := map
  seq f x := ap f (x ())

def under (step : String) : Loaded α → Loaded α
  | ok a => ok a
  | invalid ls => invalid (ls.map (step :: ·))

def misfit : Loaded α := invalid [[]]

end Loaded

namespace Load

variable {α : Type}

def text : Value → Loaded String
  | .text s => .ok s
  | .leaf (.bytes bs) => match Text.ofUtf8? bs with
    | some s => .ok s
    | none => .misfit
  | _ => .misfit

def nonEmptyText (v : Value) : Loaded String :=
  match text v with
  | .ok "" => .misfit
  | r => r

def nullable (read : Value → Loaded α) : Value → Loaded (Option α)
  | .null => .ok none
  | v => some <$> read v

def itemsFrom (read : Value → Loaded α) (i : Nat) : List Value → Loaded (List α)
  | [] => .ok []
  | v :: vs => List.cons <$> (read v).under (toString i) <*> itemsFrom read (i + 1) vs

def items (read : Value → Loaded α) : Value → Loaded (List α)
  | .list vs => itemsFrom read 0 vs
  | .tuple vs => itemsFrom read 0 vs
  | _ => .misfit

def keyText : Key → Loaded String
  | .leaf s => (text (.leaf s)).under "[key]"
  | _ => .invalid [["[key]"]]

def keyKind : Key → String
  | .null => "NoneType"
  | .leaf s => s.kind
  | .tuple _ => "tuple"

def keyStep : Key → String
  | .text s => s
  | .leaf (.bool b) => toString b.toNat
  | k => match k.literal with
    | .ok s => s
    | .error _ => "<unprintable " ++ keyKind k ++ " object>"

def pairs (read : Value → Loaded α) : Entries → Loaded (List (String × α))
  | [] => .ok []
  | (k, v) :: es =>
    List.cons <$> (Prod.mk <$> keyText k <*> read v).under (keyStep k) <*> pairs read es

def mapping (read : Value → Loaded α) : Value → Loaded (Named α)
  | .map es => Named.ofList <$> pairs read es
  | _ => .misfit

def fieldOr (name : String) (default : α) (read : Value → Loaded α) (es : Entries) : Loaded α :=
  match Entries.get? (.text name) es with
  | none => .ok default
  | some v => (read v).under name

def required (name : String) (read : Value → Loaded α) (es : Entries) : Loaded α :=
  match Entries.get? (.text name) es with
  | none => .invalid [[name]]
  | some v => (read v).under name

def object (read : Entries → Loaded α) : Value → Loaded α
  | .map es => read es
  | _ => .misfit

/-- The lower bound goes by two names, of which the first one wins. -/
def lowerBound (es : Entries) : Loaded (Option String) :=
  match Entries.get? (.text "from") es with
  | some v => (nullable text v).under "from"
  | none => fieldOr "from_" none (nullable text) es

def range : Value → Loaded Range :=
  object fun es => Range.mk <$> lowerBound es <*> fieldOr "to" none (nullable text) es

def ruleDescriptor : Value → Loaded RuleDescriptor :=
  object fun es => RuleDescriptor.mk
    <$> fieldOr "event_id" none (nullable (items text)) es
    <*> fieldOr "event_data" none (nullable (mapping (items text))) es
    <*> fieldOr "enums" none (nullable (mapping (items text))) es
    <*> fieldOr "regexps" none (nullable (mapping text)) es

def groupDescriptor : Value → Loaded GroupDescriptor :=
  object fun es => GroupDescriptor.mk
    <$> required "id" nonEmptyText es
    <*> fieldOr "builds" [] (items range) es
    <*> fieldOr "versions" [] (items range) es
    <*> fieldOr "rules" none (nullable ruleDescriptor) es

def ruleData : Value → Loaded RuleData :=
  object fun es => RuleData.mk
    <$> fieldOr "enums" [] (mapping (items text)) es
    <*> fieldOr "regexps" [] (mapping text) es

def descriptors : Value → Loaded Descriptors :=
  object fun es => Descriptors.mk
    <$> fieldOr "groups" [] (items groupDescriptor) es
    <*> fieldOr "rules" .empty ruleData es

end Load

def Location.display (l : Location) : String := Text.join "." l

def invalidDescriptors (ls : List Location) : String :=
  "Invalid rule descriptors at: " ++ Text.join ", " (ls.map Location.display)

def Descriptors.load (v : Value) : Except String Descriptors :=
  match Load.descriptors v with
  | .ok d => .ok d
  | .invalid ls => .error (invalidDescriptors ls)

end Allowlist
