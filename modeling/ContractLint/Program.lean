import ContractLint.Registry.Builtin
import ContractLint.Session.Basic

namespace ContractLint.Program

def name : String :=
  "secbit-lsp"

def version : String :=
  "0.1.0"

inductive Mode where
  | version
  | rules
  | session
  deriving DecidableEq, Repr

def Mode.ofArguments : List String → Mode
  | "--version" :: _ | "-V" :: _ => .version
  | "--list-rules" :: _ => .rules
  | _ => .session

def Mode.printed? : Mode → Option String
  | .version => some (name ++ " " ++ Program.version ++ "\n")
  | .rules => some Registry.builtin.listing
  | .session => none

end ContractLint.Program
