import ContractLint.Json.Fault
import ContractLint.Json.Shape
import ContractLint.Location.Url

namespace ContractLint.Params

open Json

section Fields

def fields? (names : List String) : Json → Option (List (Option Json))
  | .obj members => some (names.map fun name => lastNamed name members)
  | .arr items => if items.length = names.length then some (items.map some) else none
  | _ => none

def optional {α : Type} (read : Json → Option α) : Option Json → Option (Option α)
  | none | some .null => some none
  | some v => (read v).map some

def int32? : Json → Option Int32
  | .int n => if -0x80000000 ≤ n ∧ n ≤ 0x7FFFFFFF then some (Int32.ofInt n) else none
  | _ => none

def url? : Json → Option Url
  | .str s => Url.parse? s
  | _ => none

end Fields

structure ExecuteCommand where
  command : String
  arguments : List Json
  deriving Repr

def token (v : Option Json) : Except Cause Unit :=
  match v with
  | none | some .null | some (.str _) => .ok ()
  | some v => if (int32? v).isSome then .ok () else .error (.noVariantMatches "NumberOrString")

/-- Fields are looked at in the order of their names; a missing one is noticed behind them, and the
token last. -/
def ExecuteCommand.ofJson : Json → Except Cause ExecuteCommand
  | .obj members => do
      let arguments ← match lastNamed "arguments" members with
        | none => .ok []
        | some (.arr items) => .ok items
        | some v => .error (.wrongType (.ofJson v) "a sequence")
      let command ← match lastNamed "command" members with
        | none => .error (.missingField "command")
        | some (.str s) => .ok s
        | some v => .error (.wrongType (.ofJson v) "a string")
      token (lastNamed "workDoneToken" members)
      return { command, arguments }
  | v => .error (.wrongType (.ofJson v) "struct ExecuteCommandParams")

structure DidOpen where
  uri : Url
  languageId : String
  version : Int32
  text : String
  deriving DecidableEq, Repr

def DidOpen.ofJson? (v : Json) : Option DidOpen := do
  match ← fields? ["textDocument"] v with
  | [some item] =>
      match ← fields? ["uri", "languageId", "version", "text"] item with
      | [some uri, some languageId, some version, some text] =>
          return {
            uri := ← url? uri, languageId := ← languageId.text?
            version := ← int32? version, text := ← text.text? }
      | _ => none
  | _ => none

def position : Shape :=
  .record [("line", .uint32), ("character", .uint32)]

def range : Shape :=
  .record [("start", position), ("end", position)]

def changeShape : Shape :=
  .record [("range", .optional range), ("rangeLength", .optional .uint32), ("text", .text)]

def change? (v : Json) : Option String := do
  match ← fields? ["range", "rangeLength", "text"] v with
  | [_, _, some text] => if changeShape.admits v then text.text? else none
  | _ => none

structure DidChange where
  uri : Url
  version : Int32
  changes : List String
  deriving DecidableEq, Repr

def DidChange.ofJson? (v : Json) : Option DidChange := do
  match ← fields? ["textDocument", "contentChanges"] v with
  | [some document, some (.arr changes)] =>
      match ← fields? ["uri", "version"] document with
      | [some uri, some version] =>
          return {
            uri := ← url? uri, version := ← int32? version, changes := ← changes.mapM change? }
      | _ => none
  | _ => none

def identified? (v : Json) : Option Url := do
  match ← fields? ["uri"] v with
  | [some uri] => url? uri
  | _ => none

def didClose? (v : Json) : Option Url := do
  match ← fields? ["textDocument"] v with
  | [some document] => identified? document
  | _ => none

structure DidSave where
  uri : Url
  text : Option String
  deriving DecidableEq, Repr

def DidSave.ofJson? (v : Json) : Option DidSave := do
  match ← fields? ["textDocument", "text"] v with
  | [some document, text] =>
      return { uri := ← identified? document, text := ← optional Json.text? text }
  | _ => none

def settings? (v : Json) : Option Json := do
  match ← fields? ["settings"] v with
  | [settings] => settings
  | _ => none

end ContractLint.Params
