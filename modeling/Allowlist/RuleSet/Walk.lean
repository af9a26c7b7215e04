import Allowlist.RuleSet

/-!
Validation of payloads. Every scalar is checked by the rules of its path; what is not accepted is
replaced by the mark of the verdict. A field in which no rule governs anything loses its name too.
-/

namespace Allowlist

structure Field where
  name : String
  value : Value

def Verdict.value (v : Verdict) : Value := .text v.mark

/-- The name of fields that no rule governs. -/
def undefinedName : String := Verdict.undefinedRule.mark

def allUndefined (names : List Key) : Bool :=
  !names.isEmpty && names.all (Key.same (.text undefinedName))

def collapse (name : String) (names : List Key) : String :=
  if allUndefined names then undefinedName else name

def joinPath (path key : String) : String := path ++ "." ++ key

namespace RuleSet

def checkLeaf (r : RuleSet) (ctx : Context) (path name : String) (s : Scalar) : Run Field :=
  match r.chainAt path with
  | [] => pure ⟨undefinedName, Verdict.undefinedRule.value⟩
  | rules => do
    let t ← Run.lift s.ruleText
    let v ← Chain.evaluate t ctx rules
    pure ⟨name, if v = .accepted then .leaf s else v.value⟩

mutual
def check (r : RuleSet) (ctx : Context) (path name : String) : Value → Run Field
  | .null => pure ⟨name, Verdict.rejected.value⟩
  | .leaf s =>
    if (Value.leaf s).isMark || r.isExcluded path then pure ⟨name, .leaf s⟩
    else r.checkLeaf ctx path name s
  | .list vs =>
    if r.isExcluded path then pure ⟨name, .list vs⟩
    else do
      let fs ← r.checkAll ctx path name vs
      pure ⟨collapse name (fs.map fun f => .text f.name), .list (fs.map (·.value))⟩
  | .tuple vs =>
    if r.isExcluded path then pure ⟨name, .tuple vs⟩
    else do
      let fs ← r.checkAll ctx path name vs
      pure ⟨collapse name (fs.map fun f => .text f.name), .list (fs.map (·.value))⟩
  | .map es =>
    if r.isExcluded path then pure ⟨name, .map es⟩
    else do
      let fs ← r.checkEntries ctx path es
      pure ⟨collapse name (fs.map (·.1)), .map (Entries.ofList fs)⟩

def checkAll (r : RuleSet) (ctx : Context) (path name : String) : List Value → Run (List Field)
  | [] => pure []
  | v :: vs => do
    let f ← r.check ctx path name v
    let fs ← r.checkAll ctx path name vs
    pure (f :: fs)

def checkEntries (r : RuleSet) (ctx : Context) (path : String) : Entries → Run Entries
  | [] => pure []
  | (.text k, v) :: es => do
    let f ← r.check ctx (joinPath path k) k v
    let fs ← r.checkEntries ctx path es
    pure ((.text f.name, f.value) :: fs)
  | (k, _) :: es => do
    let fs ← r.checkEntries ctx path es
    pure ((k, Verdict.rejected.value) :: fs)
end

def checkField (r : RuleSet) (ctx : Context) (name : String) (v : Value) : Run Field :=
  r.check ctx name name v

end RuleSet

end Allowlist
