import ContractLint.Json.Printer
import ContractLint.Json.Reader
import ContractLint.Program
import ContractLint.Server.Wire
import ContractLint.Session.Demand

namespace ContractLint.Shell

open Text

section Framing

def lengthHeader : String :=
  "content-length"

def lengthOf? (line : String) : Option Nat :=
  let (name, value) := Url.cutAt ':' line.toList
  if (trimmed (String.ofList name)).toLower = lengthHeader then
    value.bind fun v => (trimmed (String.ofList v)).toNat?
  else none

partial def readHeader (input : IO.FS.Stream) (length : Option Nat) : IO (Option Nat) := do
  let line ← input.getLine
  if line.isEmpty then return none
  if (trimmed line).isEmpty then return length
  readHeader input (lengthOf? line <|> length)

partial def readBytes (input : IO.FS.Stream) (n : Nat) (got : ByteArray) : IO ByteArray := do
  if n ≤ got.size then return got
  let chunk ← input.read (n - got.size).toUSize
  if chunk.isEmpty then return got
  readBytes input n (got ++ chunk)

def messageOf? (bytes : Bytes) : Option Incoming := do
  let text ← Bytes.text? bytes
  Incoming.ofJson? (← (Json.read text).toOption)

def readMessage? (input : IO.FS.Stream) : IO (Option (Option Incoming)) := do
  match ← readHeader input none with
  | none => return none
  | some n => return some (messageOf? (← readBytes input n .empty).toList)

def jobName (id : JobId) : String :=
  let digits := Nat.toDigits 16 id
  "00000000-0000-4000-8000-" ++ String.ofList (List.replicate (12 - digits.length) '0' ++ digits)

def versioned : Json → Json
  | .obj members => .obj (("jsonrpc", .str "2.0") :: members)
  | v => v

def writeMessage (output : IO.FS.Stream) (m : Message) : IO Unit := do
  let body := (versioned (m.toJson jobName)).compact
  output.putStr ("Content-Length: " ++ toString body.utf8ByteSize ++ "\r\n\r\n" ++ body)
  output.flush

end Framing

def placeOf (components : List Bytes) : Names :=
  components.foldl (fun place s => if Path.isUp s then place.dropLast else place ++ [s]) []

def diskWith (path : Path) (content : Bytes) : Disk :=
  let components := path.components
  let disk : Disk := (List.range components.length).foldl
    (fun d n => d.put (placeOf (components.take n)) .directory) {}
  disk.put (placeOf components) (.file content false)

def readDisk (wanted : Option Path) : IO Disk := do
  match wanted with
  | none => return {}
  | some path =>
      try
        let content ← IO.FS.readBinFile path.shown
        return diskWith path content.toList
      catch _ => return {}

def worldWith (disk : Disk) : World where
  site := {
    disk, compiler := fun _ => {}, scratch := Path.ofText "/scratch", freshName := "copy" }
  backend := Embedded.unavailable

partial def converse (input output : IO.FS.Stream) (session : Session) : IO UInt32 := do
  if let .ended code := session then return code.toUInt32
  match ← readMessage? input with
  | none => return session.exitCode.toUInt32
  | some m =>
      let disk ← readDisk (m.bind session.reads?)
      let turn := session.hear { disk, accepting := true } m
      turn.sent.forM (writeMessage output)
      if let some task := turn.queued then
        (task.outcome (worldWith disk)).messages.forM (writeMessage output)
      converse input output turn.session

end ContractLint.Shell

def main (args : List String) : IO UInt32 := do
  match (ContractLint.Program.Mode.ofArguments args).printed? with
  | some text =>
      IO.print text
      return 0
  | none => ContractLint.Shell.converse (← IO.getStdin) (← IO.getStdout) .fresh
