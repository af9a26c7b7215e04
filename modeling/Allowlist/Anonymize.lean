import Allowlist.Digest.Sha256
import Allowlist.Text.Blank
import Allowlist.Text.Quoted
import Allowlist.Text.Utf8

namespace Allowlist

inductive Salt
  | text (s : String)
  | bytes (bs : List UInt8)

def Salt.toBytes : Salt → List UInt8
  | text s => Text.utf8 s
  | bytes bs => bs

def hexText (bs : List UInt8) : String :=
  String.ofList (bs.flatMap fun b => Text.hex 2 b.toNat)

def anonymizeWith (hash : List UInt8 → List UInt8) (salt : Salt) (s : String) : String :=
  if Text.isBlankText s then s else hexText (hash (salt.toBytes ++ Text.utf8 s))

def anonymize : Salt → String → String := anonymizeWith Sha256.hash

end Allowlist
