import ContractLint.Analysis.Analyzer
import ContractLint.Proofs.Registry.Tags

namespace ContractLint

open Text

variable {tags : List String}

namespace CommandLine

variable {switch : Argument} {as : List Argument}

def tagSwitch : Argument :=
  word "--secbit-tag"

end CommandLine

namespace Native

open CommandLine

variable {site : Site} {binary : String} {input : Path} {job : Job} {invocation : Invocation}

end Native

namespace Embedded

end Embedded

end ContractLint
