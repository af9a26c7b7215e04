import Allowlist.Binary64

/-!
Payload values: what an event carries, before and after validation. A map is a list of entries in
order of insertion; `put` writes an entry as a dictionary does, so that an old key keeps its place.
-/

namespace Allowlist

inductive Scalar
  | bool (b : Bool)
  | int (n : Int)
  | float (x : Binary64)
  | text (s : String)
  | bytes (bs : List UInt8)
  deriving DecidableEq

inductive Key
  | null
  | leaf (s : Scalar)
  | tuple (ks : List Key)

inductive Value
  | null
  | leaf (s : Scalar)
  | list (vs : List Value)
  | tuple (vs : List Value)
  | map (es : List (Key × Value))

abbrev Entries := List (Key × Value)

@[match_pattern] abbrev Key.text (s : String) : Key := .leaf (.text s)

@[match_pattern] abbrev Value.text (s : String) : Value := .leaf (.text s)

/-- What a number is equal to, whatever its type: truth values count as one and zero, and a whole
number is the same in both kinds. No number stands for itself under `nan`. -/
inductive Quantity
  | whole (n : Int)
  | other (x : Binary64)
  deriving DecidableEq

def Scalar.quantity? : Scalar → Option Quantity
  | .bool b => some (.whole b.toNat)
  | .int n => some (.whole n)
  | .float .nan => none
  | .float x => some (match x.toInt? with
    | some n => .whole n
    | none => .other x)
  | .text _ => none
  | .bytes _ => none

def Scalar.sameKey (a b : Scalar) : Bool :=
  match a.quantity?, b.quantity? with
  | some p, some q => p = q
  | none, none => a ≠ .float .nan && a = b
  | _, _ => false

mutual
def Key.same : Key → Key → Bool
  | .null, .null => true
  | .leaf a, .leaf b => a.sameKey b
  | .tuple as, .tuple bs => Key.sameAll as bs
  | _, _ => false

def Key.sameAll : List Key → List Key → Bool
  | [], [] => true
  | a :: as, b :: bs => a.same b && Key.sameAll as bs
  | _, _ => false
end

def Key.isText : Key → Bool
  | .text _ => true
  | _ => false

namespace Entries

variable {α : Type}

def put (k : Key) (v : α) : List (Key × α) → List (Key × α)
  | [] => [(k, v)]
  | (k', v') :: es => if k'.same k then (k', v) :: es else (k', v') :: put k v es

def ofList (es : List (Key × α)) : List (Key × α) := es.foldl (fun m (k, v) => put k v m) []

def get? (k : Key) : List (Key × α) → Option α
  | [] => none
  | (k', v) :: es => if k'.same k then some v else get? k es

end Entries

@[simp] theorem Scalar.sameKey_text (s t : String) :
    (Scalar.text s).sameKey (.text t) = decide (s = t) := by
  simp [Scalar.sameKey, Scalar.quantity?]

@[simp] theorem Key.same_text (s t : String) : (Key.text s).same (.text t) = decide (s = t) := by
  simp [Key.same]

end Allowlist
