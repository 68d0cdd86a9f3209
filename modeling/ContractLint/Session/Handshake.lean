import ContractLint.Server.Basic
import ContractLint.Server.Params
import ContractLint.Session.Capabilities

namespace ContractLint

structure Handshake where
  workspace : Workspace
  options : Option Json := none
  deriving Repr

namespace Handshake

open Json Params

def folder? (v : Json) : Option Url := do
  match ← fields? ["uri", "name"] v with
  | [some uri, some name] =>
      let _ ← name.text?
      url? uri
  | _ => none

def folders? (v : Json) : Option (List Url) :=
  v.items?.bind fun items => items.mapM folder?

def trace : Shape :=
  .optional (.oneOf ["off", "messages", "verbose"])

def client : Shape :=
  .optional (.record [("name", .text), ("version", .optional .text)])

def unused : Shape :=
  .object [
    ("processId", .optional .uint32),
    ("capabilities", Capabilities.shape),
    ("trace", trace),
    ("clientInfo", client),
    ("locale", .optional .text),
    ("workDoneToken", .optional (.either .int32 .text))]

def ofJson? (v : Json) : Option Handshake := do
  if !unused.admits v then none
  let rootPath ← optional Json.text? (v.get? "rootPath")
  let rootUri ← optional url? (v.get? "rootUri")
  let folders ← optional folders? (v.get? "workspaceFolders")
  return { workspace := { folders, rootUri, rootPath }, options := v.get? "initializationOptions" }

def settings (h : Handshake) : Settings :=
  match h.options with
  | none | some .null => {}
  | some v => (Settings.ofJson v).toOption.getD {}

def server (h : Handshake) : Server :=
  .start h.workspace h.settings

end Handshake

end ContractLint
