import ContractLint.Location.Url
import ContractLint.Settings

namespace ContractLint

abbrev JobId := Nat

structure Job where
  id : JobId
  uri : Url
  path : Path
  version : Option Int32
  content : String
  options : Options
  deriving DecidableEq, Repr, Inhabited

end ContractLint
