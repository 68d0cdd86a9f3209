import ContractLint.Analysis.Analyzer
import ContractLint.Diagnostic
import ContractLint.Registry.Builtin

namespace ContractLint

namespace CommandName

def analyze : String :=
  "secbit.analyze"

def describeRules : String :=
  "secbit.describeRules"

end CommandName

inductive RequestId where
  | number (n : Int)
  | text (s : String)
  deriving DecidableEq, Repr, Inhabited

inductive Reply where
  | analyzed (uri : Url) (job : Option JobId)
  | rules (markdown : String)
  | capabilities
  | nothing
  deriving DecidableEq, Repr, Inhabited

inductive Refusal where
  | unhandledMethod (method : String)
  | unknownCommand (command : String)
  | badParams (cause : Json.Cause)
  | noActiveDocument
  | noPathMember
  | badArgument
  | invalidUri (text : String)
  | invalidPath (path : Path)
  | unreadable (path : Path)
  | workerStopped
  deriving DecidableEq, Repr

namespace Refusal

def notFoundCode : Int := -32601

def failedCode : Int := -32603

def code : Refusal → Int
  | .unhandledMethod _ | .unknownCommand _ => notFoundCode
  | _ => failedCode

def message : Refusal → String
  | .unhandledMethod method => "Unhandled method: " ++ method
  | .unknownCommand command => "Unknown command: " ++ command
  | .badParams cause => cause.message
  | .noActiveDocument => "No active document to analyze"
  | .noPathMember => "URI object has no recognizable path field"
  | .badArgument => "Invalid document argument: expected string or URI object"
  | .invalidUri text => "Invalid URI: " ++ text
  | .invalidPath path => "Invalid file path: " ++ path.shown
  | .unreadable path => "Failed to read " ++ path.shown
  | .workerStopped => "Analysis worker is not running"

end Refusal

inductive Message where
  | reply (id : RequestId) (reply : Reply)
  | refusal (id : RequestId) (refusal : Refusal)
  | notice (text : String)
  | diagnostics (uri : Url) (version : Option Int32) (ds : List Diagnostic.Published)
  deriving DecidableEq, Repr

def Message.unknownCheck (tag : String) : Message :=
  .notice ("Unknown check: " ++ tag)

def Outcome.messages (o : Outcome) : List Message :=
  match o.result with
  | .ok fs => [.diagnostics o.uri o.version (Diagnostic.published .builtin fs)]
  | .error failure =>
      (failure.notice?.map Message.notice).toList ++ [.diagnostics o.uri o.version []]

end ContractLint
