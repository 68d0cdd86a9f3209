import ContractLint.Documents
import ContractLint.Server.Message
import ContractLint.Server.Params
import ContractLint.Workspace

namespace ContractLint

structure Server where
  documents : Documents
  root : Option Path
  settings : Settings
  analyzer : Analyzer
  nextJob : JobId

structure Outside where
  disk : Disk
  accepting : Bool

structure Step where
  server : Server
  sent : List Message := []
  queued : Option Task := none

namespace Server

def start (workspace : Workspace) (settings : Settings) : Server where
  documents := .empty
  root := workspace.root?
  settings := settings
  analyzer := .ofSettings settings
  nextJob := 0

section Analysis

structure Attempt where
  unknown : List String := []
  outcome : Except Refusal (Option Task)

def content (s : Server) (disk : Disk) (uri : Url) (path : Path) :
    Except Refusal (String × Option Int32) :=
  match s.documents.get? uri with
  | some d => .ok (d.content, some d.version)
  | none =>
      match disk.readText path with
      | .ok text => .ok (text, none)
      | .error _ => .error (.unreadable path)

def task (s : Server) (uri : Url) (path : Path) (content : String) (version : Option Int32) :
    Task where
  job := {
    id := s.nextJob, uri, path, version, content
    options := s.settings.resolve .builtin }
  analyzer := s.analyzer

def attempt (s : Server) (out : Outside) (uri : Url) : Attempt :=
  if s.documents.isSolidity uri then
    let path := uri.location
    match s.content out.disk uri path with
    | .error e => { outcome := .error e }
    | .ok (content, version) =>
        { unknown := s.settings.unknownTags .builtin
          outcome :=
            if out.accepting then .ok (some (s.task uri path content version))
            else .error .workerStopped }
  else { outcome := .ok none }

def Attempt.queued (a : Attempt) : Option Task :=
  match a.outcome with
  | .ok task => task
  | .error _ => none

def Attempt.notices (a : Attempt) : List Message :=
  a.unknown.map Message.unknownCheck

def count (s : Server) (queued : Option Task) : Server :=
  match queued with
  | some _ => { s with nextJob := s.nextJob + 1 }
  | none => s

def analyze (s : Server) (out : Outside) (uri : Url) : Step × Except Refusal (Option Task) :=
  let a := s.attempt out uri
  ({ server := s.count a.queued, sent := a.notices, queued := a.queued }, a.outcome)

end Analysis

section Arguments

def startsWith (pattern text : List Char) : Bool :=
  pattern.isPrefixOf text

def hasInfix (pattern : List Char) : List Char → Bool
  | [] => pattern.isEmpty
  | c :: cs => startsWith pattern (c :: cs) || hasInfix pattern cs

def looksLikeUrl (text : String) : Bool :=
  hasInfix "://".toList text.toList || startsWith "untitled:".toList text.toList

def urlOfPath (s : Server) (text : String) : Except Refusal Url :=
  let path := Workspace.resolve s.root (Path.ofText text)
  match Url.ofFilePath? path with
  | some uri => .ok uri
  | none => .error (.invalidPath path)

def urlOfText (s : Server) (text : String) : Except Refusal Url :=
  if looksLikeUrl text then
    match Url.parse? text with
    | some uri => .ok uri
    | none => .error (.invalidUri text)
  else s.urlOfPath text

def memberText (v : Json) (key : String) : Option String :=
  (v.get? key).bind Json.text?

def urlOfArgument (s : Server) (v : Json) : Except Refusal Url :=
  match v with
  | .str text => s.urlOfText text
  | .obj _ =>
      match memberText v "uri" <|> memberText v "external" with
      | some text => s.urlOfText text
      | none =>
          match memberText v "fsPath" <|> memberText v "path" with
          | some path => s.urlOfPath path
          | none => .error .noPathMember
  | _ => .error .badArgument

def target (s : Server) (arguments : List Json) : Except Refusal Url :=
  match arguments with
  | v :: _ => s.urlOfArgument v
  | [] =>
      match s.documents.lastActive with
      | some uri => .ok uri
      | none => .error .noActiveDocument

end Arguments

section Requests

def executeCommand : String :=
  "workspace/executeCommand"

def refuse (s : Server) (id : RequestId) (refusal : Refusal) : Step :=
  { server := s, sent := [.refusal id refusal] }

def answerAnalyze (s : Server) (out : Outside) (id : RequestId) (arguments : List Json) : Step :=
  match s.target arguments with
  | .error refusal => s.refuse id refusal
  | .ok uri =>
      let (step, outcome) := s.analyze out uri
      let answer := match outcome with
        | .ok task => Message.reply id (.analyzed uri (task.map (·.job.id)))
        | .error refusal => Message.refusal id refusal
      { step with sent := step.sent ++ [answer] }

def answerCommand (s : Server) (out : Outside) (id : RequestId) (params : Json) : Step :=
  match Params.ExecuteCommand.ofJson params with
  | .error cause => s.refuse id (.badParams cause)
  | .ok c =>
      if c.command = CommandName.analyze then s.answerAnalyze out id c.arguments
      else if c.command = CommandName.describeRules then
        { server := s, sent := [.reply id (.rules Registry.builtin.listing)] }
      else s.refuse id (.unknownCommand c.command)

def request (s : Server) (out : Outside) (id : RequestId) (method : String) (params : Json) :
    Step :=
  if method = executeCommand then s.answerCommand out id params
  else s.refuse id (.unhandledMethod method)

end Requests

section Notifications

def withDocuments (s : Server) (documents : Documents) : Server :=
  { s with documents }

def didOpen (s : Server) (p : Params.DidOpen) : Server :=
  s.withDocuments (s.documents.add {
    uri := p.uri, languageId := p.languageId, version := p.version, content := p.text
    isDirty := false })

def didChange (s : Server) (p : Params.DidChange) : Server :=
  match p.changes.getLast? with
  | none => s
  | some text =>
      match s.documents.change p.uri p.version text with
      | .ok documents => s.withDocuments documents
      | .error _ => s

def didClose (s : Server) (uri : Url) : Server :=
  s.withDocuments (s.documents.close uri)

def didSave (s : Server) (out : Outside) (p : Params.DidSave) : Step :=
  let s := s.withDocuments (s.documents.markSaved p.uri p.text)
  if s.settings.onSave then (s.analyze out p.uri).1 else { server := s }

def didChangeConfiguration (s : Server) (v : Json) : Server :=
  match s.settings.update v with
  | .ok settings => { s with settings, analyzer := .ofSettings settings }
  | .error _ => s

inductive Notification where
  | didOpen (p : Params.DidOpen)
  | didChange (p : Params.DidChange)
  | didClose (uri : Url)
  | didSave (p : Params.DidSave)
  | didChangeConfiguration (v : Json)

def Notification.ofJson? (method : String) (params : Json) : Option Notification :=
  match method with
  | "textDocument/didOpen" => (Params.DidOpen.ofJson? params).map .didOpen
  | "textDocument/didChange" => (Params.DidChange.ofJson? params).map .didChange
  | "textDocument/didClose" => (Params.didClose? params).map .didClose
  | "textDocument/didSave" => (Params.DidSave.ofJson? params).map .didSave
  | "workspace/didChangeConfiguration" => (Params.settings? params).map .didChangeConfiguration
  | _ => none

def accept (s : Server) (out : Outside) : Notification → Step
  | .didOpen p => { server := s.didOpen p }
  | .didChange p => { server := s.didChange p }
  | .didClose uri => { server := s.didClose uri }
  | .didSave p => s.didSave out p
  | .didChangeConfiguration v => { server := s.didChangeConfiguration v }

def notification (s : Server) (out : Outside) (method : String) (params : Json) : Step :=
  match Notification.ofJson? method params with
  | some n => s.accept out n
  | none => { server := s }

end Notifications

end Server

end ContractLint
