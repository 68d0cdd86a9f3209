import ContractLint.Analysis.Disk
import ContractLint.Finding.Report

namespace ContractLint

inductive Malformed where
  | undecodable (kind : Report) (error : Json.ReadError)
  | unreadable (path : Path) (error : IoError)
  | other (text : String)
  deriving DecidableEq, Repr

def Report.noun : Report → String
  | .native => "report"
  | .embedded => "output"

def Malformed.message : Malformed → String
  | .undecodable kind error => Json.ticked kind.key ++ " " ++ kind.noun ++ ": " ++ error.message
  | .unreadable path error => "cannot read " ++ path.shown ++ ": " ++ error.message
  | .other text => text

inductive Failure where
  | spawnFailed (binary : String) (error : IoError)
  | nonZeroExit (code : Option Int) (stderr : String)
  | malformed (what : Malformed)
  | io (error : IoError)
  | backend (reason : String) (notify : Bool)
  deriving DecidableEq, Repr

namespace Failure

def exitLabel : Option Int → String
  | some code => "code " ++ toString code
  | none => "no exit code (terminated by signal)"

def spawnNotice (binary : String) : String :=
  "Failed to start " ++ binary

def message : Failure → String
  | .spawnFailed binary error => spawnNotice binary ++ ": " ++ error.message
  | .nonZeroExit code _ => "Analyzer exited with " ++ exitLabel code
  | .malformed what => "Malformed analyzer output: " ++ what.message
  | .io error => "I/O error while preparing analysis: " ++ error.message
  | .backend reason _ => "Embedded compiler failed: " ++ reason

def notice? : Failure → Option String
  | .spawnFailed binary _ => some (spawnNotice binary)
  | .backend reason true => some reason
  | _ => none

end Failure

abbrev AnalysisResult := Except Failure (List Finding)

def Report.decode (kind : Report) (text : String) : AnalysisResult :=
  match kind.read text with
  | .ok fs => .ok fs
  | .error e => .error (.malformed (.undecodable kind e))

end ContractLint
