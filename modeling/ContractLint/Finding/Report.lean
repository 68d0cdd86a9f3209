import ContractLint.Finding.Basic
import ContractLint.Json.Record

namespace ContractLint

open Json

def Coordinate.read (nesting : Nat) : Reader Int64 := fun t => do
  let (v, rest) ← readValue nesting t
  match Coordinate.ofJson v with
  | .ok c => return (c, rest)
  | .error cause => .error (.loose cause rest)

namespace Finding

@[ext]
structure Draft where
  tag : Option String := none
  description : Option String := none
  startLine : Option Int64 := none
  startColumn : Option Int64 := none
  endLine : Option Int64 := none
  endColumn : Option Int64 := none
  deriving DecidableEq, Repr

def required {α : Type} (name : String) : Option α → Except String α
  | some a => .ok a
  | none => .error name

def Draft.finish (d : Draft) : Except String Finding := do
  let tag ← required "tag" d.tag
  let description ← required "desc" d.description
  let startLine ← required "startline" d.startLine
  let startColumn ← required "startcolumn" d.startColumn
  let endLine ← required "endline" d.endLine
  let endColumn ← required "endcolumn" d.endColumn
  return ⟨tag, description, startLine, startColumn, endLine, endColumn⟩

section Fields

def tagField : RecordField Draft :=
  ⟨"tag", [], String, (·.tag), fun d s => { d with tag := some s }, fun _ => readText⟩

def descriptionField : RecordField Draft :=
  ⟨"desc", ["description"], String, (·.description), fun d s => { d with description := some s },
    fun _ => readText⟩

def coordinateField (name spelling : String) (get : Draft → Option Int64)
    (set : Draft → Int64 → Draft) : RecordField Draft :=
  ⟨name, [spelling], Int64, get, set, Coordinate.read⟩

def startLineField : RecordField Draft :=
  coordinateField "startline" "startLine" (·.startLine) fun d c => { d with startLine := some c }

def startColumnField : RecordField Draft :=
  coordinateField "startcolumn" "startColumn" (·.startColumn)
    fun d c => { d with startColumn := some c }

def endLineField : RecordField Draft :=
  coordinateField "endline" "endLine" (·.endLine) fun d c => { d with endLine := some c }

def endColumnField : RecordField Draft :=
  coordinateField "endcolumn" "endColumn" (·.endColumn) fun d c => { d with endColumn := some c }

end Fields

def record : Record Draft Finding where
  title := "struct RawFinding"
  sized := "struct RawFinding with 6 elements"
  fields := [tagField, descriptionField, startLineField, startColumnField, endLineField,
    endColumnField]
  blank := {}
  finish := Draft.finish

end Finding

inductive Report where
  | native
  | embedded
  deriving DecidableEq, Repr

namespace Report

def key : Report → String
  | .native => "secbit-warnings"
  | .embedded => "errors"

def title : Report → String
  | .native => "struct ExternalReport"
  | .embedded => "struct CompileOutput"

def findingsField (kind : Report) : RecordField (Option (List Finding)) :=
  ⟨kind.key, [], List Finding, id, fun _ fs => some fs, readSequence Finding.record.read⟩

def record (kind : Report) : Record (Option (List Finding)) (List Finding) where
  title := kind.title
  sized := kind.title ++ " with 1 element"
  fields := [kind.findingsField]
  blank := none
  finish := Finding.required kind.key

def read (kind : Report) (text : String) : Except ReadError (List Finding) :=
  readWhole (kind.record.read maxNesting) text

end Report

end ContractLint
