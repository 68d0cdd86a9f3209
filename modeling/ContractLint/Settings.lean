import ContractLint.Json.Fault
import ContractLint.Json.Printer
import ContractLint.Registry.Basic

namespace ContractLint

structure Options where
  noSmt : Bool := false
  asErc20 : Bool := false
  tags : List String := []
  deriving DecidableEq, Repr, Inhabited

structure Settings where
  solc : Option String := none
  enables : List String := []
  noSmt : Bool := false
  asErc20 : Bool := false
  onSave : Bool := false
  deriving DecidableEq, Repr, Inhabited

namespace Settings

def sectionName : String :=
  "secbit"

def part (v : Json) : Json :=
  (v.get? sectionName).getD v

def toJson (s : Settings) : Json :=
  .obj [("solc", match s.solc with | some p => .str p | none => .null),
    ("enables", .arr (s.enables.map .str)),
    ("noSMT", .bool s.noSmt),
    ("asERC20", .bool s.asErc20),
    ("onSave", .bool s.onSave)]

section Fields

def path? : Json → Option (Option String)
  | .null => some none
  | .str s => some (some s)
  | _ => none

def texts? : List Json → Option (List String)
  | [] => some []
  | .str s :: rest => (texts? rest).map (s :: ·)
  | _ => none

def tags? : Json → Option (List String)
  | .arr items => texts? items
  | _ => none

end Fields

section Strict

def field {α : Type} (v : Json) (key : String) (read : Json → Option α) (default : α) : Option α :=
  match v.get? key with
  | none => some default
  | some w => read w

def ofObject? (v : Json) : Option Settings := do
  let solc ← field v "solc" path? none
  let enables ← field v "enables" tags? []
  let noSmt ← field v "noSMT" Json.bool? false
  let asErc20 ← field v "asERC20" Json.bool? false
  let onSave ← field v "onSave" Json.bool? false
  return { solc, enables, noSmt, asErc20, onSave }

def item {α : Type} (items : List Json) (read : Json → Option α) (default : α) :
    Option (α × List Json) :=
  match items with
  | [] => some (default, [])
  | v :: rest => (read v).map (·, rest)

def ofItems? (items : List Json) : Option Settings := do
  let (solc, items) ← item items path? none
  let (enables, items) ← item items tags? []
  let (noSmt, items) ← item items Json.bool? false
  let (asErc20, items) ← item items Json.bool? false
  let (onSave, items) ← item items Json.bool? false
  match items with
  | [] => return { solc, enables, noSmt, asErc20, onSave }
  | _ => none

def strict? : Json → Option Settings
  | .obj members => ofObject? (.obj members)
  | .arr items => ofItems? items
  | _ => none

end Strict

def merged {α : Type} (v : Json) (key : String) (read : Json → Option α) (old : α) : α :=
  ((v.get? key).bind read).getD old

def update (s : Settings) (v : Json) : Except Json.Cause Settings :=
  let p := part v
  if p.isObject then
    .ok {
      solc := merged p "solc" path? s.solc
      enables := merged p "enables" tags? s.enables
      noSmt := merged p "noSMT" Json.bool? s.noSmt
      asErc20 := merged p "asERC20" Json.bool? s.asErc20
      onSave := merged p "onSave" Json.bool? s.onSave }
  else .error (.notSettings p.compact)

def ofJson (v : Json) : Except Json.Cause Settings :=
  match strict? (part v) with
  | some s => .ok s
  | none => update {} v

def solcPath? (s : Settings) : Option String :=
  s.solc.filter (· != "")

def resolve (s : Settings) (registry : Registry) : Options where
  noSmt := s.noSmt
  asErc20 := s.asErc20
  tags := (registry.select s.enables).accepted

def unknownTags (s : Settings) (registry : Registry) : List String :=
  (registry.select s.enables).unknown

end Settings

end ContractLint
