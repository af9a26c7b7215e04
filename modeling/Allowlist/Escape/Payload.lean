import Allowlist.Escape

namespace Allowlist

def Key.escape : Key → Key
  | .text s => .text (Escape.name s)
  | k => k

def Scalar.escape : Scalar → Scalar
  | .text s => .text (Escape.value s)
  | s => s

mutual
def Value.escape : Value → Value
  | .null => .null
  | .leaf s => .leaf s.escape
  | .list vs => .list (Value.escapeAll vs)
  | .tuple vs => .list (Value.escapeAll vs)
  | .map es => .map (Entries.ofList (Value.escapeEntries es))

def Value.escapeAll : List Value → List Value
  | [] => []
  | v :: vs => v.escape :: Value.escapeAll vs

def Value.escapeEntries : Entries → Entries
  | [] => []
  | (k, v) :: es => (k.escape, v.escape) :: Value.escapeEntries es
end

namespace Key

def char? : Key → Option Char
  | .text s => match s.toList with
    | [c] => some c
    | _ => none
  | .leaf (.bytes [b]) => if b.toNat ≤ 127 then none else some (Char.ofNat b.toNat)
  | _ => none

def chars? : Key → Option (List Char)
  | .text s => some s.toList
  | .leaf (.bytes []) => some []
  | .tuple ks => ks.mapM char?
  | _ => none

/-- The name of a field of an event. A key that is a clean sequence of characters is kept, any other
sequence becomes a text, and what is no sequence cannot be written. -/
def fieldName? : Key → Option Key
  | .text s => some (.text (Escape.name s))
  | k => k.chars?.map fun cs =>
    if cs.any Escape.forName.isDirty then .text (String.ofList (cs.filterMap Escape.forName.char))
    else k

end Key

def Entries.withFieldNames? : Entries → Option Entries
  | [] => some []
  | (k, v) :: es => do return (← k.fieldName?, v.escape) :: (← Entries.withFieldNames? es)

def Entries.escape? (es : Entries) : Option Entries :=
  (Entries.withFieldNames? es).map Entries.ofList

def Escape.ids (ids : List (String × String)) : Entries :=
  Entries.ofList (ids.map fun (k, v) => (.text (Escape.name k), .text (Escape.value v)))

end Allowlist
