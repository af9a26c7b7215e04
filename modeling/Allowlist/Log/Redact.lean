import Allowlist.Text.Case
import Allowlist.Text.Pieces
import Allowlist.Value.Display

/-!
Redaction of log records. The key alone decides what happens to a value: secrets vanish, payloads
leave their shape, identifiers a part; all else is kept, and records inside of it are redacted too.
-/

namespace Allowlist.Log

def secretPatterns : List String :=
  ["password", "pwd", "secret", "token", "api_key", "apikey", "credential", "private", "salt"]

def payloadKeys : List String := ["event_data", "data", "payload", "value"]

inductive Mask
  | id (label : String)
  | build

def mask? : String → Option Mask
  | "session_id" => some (.id "session")
  | "session" => some (.id "session")
  | "bucket" => some (.id "bucket")
  | "build" => some .build
  | _ => none

inductive KeyClass
  | secret
  | payload
  | masked (m : Mask)
  | opened

def occursIn (needle : List Char) : List Char → Bool
  | [] => needle.isEmpty
  | c :: cs => needle.isPrefixOf (c :: cs) || occursIn needle cs

def isSecretName (s : String) : Bool :=
  secretPatterns.any fun p => occursIn p.toList (Text.lower s).toList

def keyClass : Key → KeyClass
  | .text s =>
    if isSecretName s then .secret
    else if payloadKeys.contains s then .payload
    else match mask? s with
      | some m => .masked m
      | none => .opened
  | _ => .secret

def hidden : Value := .text "***REDACTED***"

def shape : Value → String
  | .null => "NoneType"
  | .leaf s => s.kind
  | .list vs => "list[" ++ toString vs.length ++ "]"
  | .tuple vs => "list[" ++ toString vs.length ++ "]"
  | .map es => "dict[" ++ toString es.length ++ "]"

def idTail (cs : List Char) : List Char := if 8 < cs.length then cs.drop (cs.length - 4) else []

def Mask.apply (s : String) : Mask → String
  | .id label => label ++ "_***" ++ String.ofList (idTail s.toList)
  | .build =>
    match Text.pieces '.' s with
    | "" :: _ => "***"
    | major :: _ => major ++ ".***"
    | [] => "***"

def cover? (k : Key) (v : Value) : Option (Except Failure Value) :=
  match keyClass k, v with
  | .opened, _ => none
  | .secret, _ => some (.ok hidden)
  | _, .null => some (.ok .null)
  | .payload, v => some (.ok (.text (shape v)))
  | .masked m, v => some (v.display.map fun s => .text (m.apply s))

mutual
def redactInside : Value → Except Failure Value
  | .map es => (redact es).map .map
  | .list vs => (redactElements vs).map .list
  | v => .ok v

def redactElements : List Value → Except Failure (List Value)
  | [] => .ok []
  | .map es :: vs => do return .map (← redact es) :: (← redactElements vs)
  | v :: vs => (redactElements vs).map (v :: ·)

def redact : Entries → Except Failure Entries
  | [] => .ok []
  | (k, v) :: es => do
    let w ← (cover? k v).getD (redactInside v)
    return (k, w) :: (← redact es)
end

end Allowlist.Log
