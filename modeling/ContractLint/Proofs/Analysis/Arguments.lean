import ContractLint.Proofs.Analysis.Endings

namespace ContractLint

open Text

namespace CommandLine

variable {as rest : List Argument} {switch : Argument} {options : Options} {report input : Path}

structure Order where
  options : Options
  report : Path
  input : Path
  deriving DecidableEq, Repr

def opening : List Argument :=
  [word "-o", word "/", word "--overwrite"]

def noSmtSwitch : Argument :=
  word "--no-smt"

def erc20Switch : Argument :=
  word "--erc20"

def reportSwitch : Argument :=
  word "--secbit-warnings"

section Switches

def readSwitch (switch : Argument) : List Argument → Bool × List Argument
  | a :: rest => if a = switch then (true, rest) else (false, a :: rest)
  | [] => (false, [])

end Switches

section Tags

def readTags : List Argument → Option (List String × List Argument)
  | a :: tag :: rest =>
      if a = tagSwitch then do
        let t ← Bytes.text? tag
        let (ts, rest) ← readTags rest
        return (t :: ts, rest)
      else some ([], a :: tag :: rest)
  | rest => some ([], rest)

end Tags

section Orders

def readPaths : List Argument → Option (Path × Path)
  | [a, report, input] => if a = reportSwitch then some (⟨report⟩, ⟨input⟩) else none
  | _ => none

def readOrder (as : List Argument) : Option Order := do
  let (noSmt, as) := readSwitch noSmtSwitch as
  let (tags, as) ← readTags as
  let (asErc20, as) := readSwitch erc20Switch as
  let (report, input) ← readPaths as
  return ⟨{ noSmt, asErc20, tags }, report, input⟩

def read : List Argument → Option Order
  | a :: b :: c :: as => if [a, b, c] = opening then readOrder as else none
  | _ => none

end Orders

end CommandLine

namespace Native

open CommandLine

variable {site : Site} {binary : String} {input : Path} {job : Job} {i : Invocation}

example :
    read (arguments { tags := ["--erc20", "", "--secbit-warnings"] }
      (Path.ofText "/a.err") (Path.ofText "/a")) =
      some ⟨{ tags := ["--erc20", "", "--secbit-warnings"] }, Path.ofText "/a.err",
        Path.ofText "/a"⟩ := by
  decide +kernel

end Native

end ContractLint
