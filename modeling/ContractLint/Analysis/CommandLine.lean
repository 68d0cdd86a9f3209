import ContractLint.Location.Path
import ContractLint.Settings

namespace ContractLint.CommandLine

open Text

abbrev Argument := Bytes

def word (s : String) : Argument :=
  Bytes.ofString s

def tagArguments (tags : List String) : List Argument :=
  tags.flatMap fun t => [word "--secbit-tag", word t]

def arguments (options : Options) (report input : Path) : List Argument :=
  [word "-o", word "/", word "--overwrite"]
    ++ (if options.noSmt then [word "--no-smt"] else [])
    ++ tagArguments options.tags
    ++ (if options.asErc20 then [word "--erc20"] else [])
    ++ [word "--secbit-warnings", report.bytes, input.bytes]

def reportPath (input : Path) : Path :=
  input.extend ".err"

end ContractLint.CommandLine
