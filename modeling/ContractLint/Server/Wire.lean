import ContractLint.Json.Basic
import ContractLint.Server.Message

namespace ContractLint

def Diagnostic.Place.toJson (p : Diagnostic.Place) : Json :=
  .obj [("line", .int p.line.toNat), ("character", .int p.character.toNat)]

def Diagnostic.Published.toJson (d : Diagnostic.Published) : Json :=
  .obj [
    ("range", .obj [("start", d.first.toJson), ("end", d.last.toJson)]),
    ("severity", .int d.severity.code),
    ("code", .str d.code),
    ("source", .str d.source),
    ("message", .str d.message)]

def RequestId.toJson : RequestId → Json
  | .number n => .int n
  | .text s => .str s

def offer : Json :=
  .obj [
    ("textDocumentSync", .obj [
      ("openClose", .bool true),
      ("change", .int 1),
      ("save", .obj [("includeText", .bool true)])]),
    ("executeCommandProvider", .obj [
      ("commands", .arr [.str CommandName.analyze, .str CommandName.describeRules])])]

def Reply.toJson (jobName : JobId → String) : Reply → Json
  | .analyzed uri job => .obj [
      ("uri", .str uri.text),
      ("analyzed", .bool job.isSome),
      ("jobId", match job with | some id => .str (jobName id) | none => .null)]
  | .rules markdown => .obj [("markdown", .str markdown)]
  | .capabilities => .obj [("capabilities", offer)]
  | .nothing => .null

def noticeKind : Int := 3

def versionMember : Option Int32 → List (String × Json)
  | some v => [("version", .int v.toInt)]
  | none => []

def Message.toJson (jobName : JobId → String) : Message → Json
  | .reply id r => .obj [("id", id.toJson), ("result", r.toJson jobName)]
  | .refusal id r => .obj [
      ("id", id.toJson),
      ("error", .obj [("code", .int r.code), ("message", .str r.message)])]
  | .notice text => .obj [
      ("method", .str "window/showMessage"),
      ("params", .obj [("type", .int noticeKind), ("message", .str text)])]
  | .diagnostics uri v ds => .obj [
      ("method", .str "textDocument/publishDiagnostics"),
      ("params", .obj ([
        ("uri", .str uri.text),
        ("diagnostics", .arr (ds.map Diagnostic.Published.toJson))] ++ versionMember v))]

end ContractLint
