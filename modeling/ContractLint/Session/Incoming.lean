import ContractLint.Json.Shape
import ContractLint.Server.Message
import ContractLint.Server.Params

namespace ContractLint

inductive Incoming where
  | request (id : RequestId) (method : String) (params : Json)
  | notification (method : String) (params : Json)
  | response
  deriving Repr

def RequestId.ofJson? : Json → Option RequestId
  | .str s => some (.text s)
  | v => (Params.int32? v).map fun n => .number n.toInt

namespace Incoming

open Json in
def failure : Shape :=
  .optional (.record [("code", .int32), ("message", .text), ("data", .optional .any)])

def isResponse (v : Json) : Bool :=
  (v.get? "error").all failure.admits

def ofJson? (v : Json) : Option Incoming :=
  let id := (v.get? "id").bind RequestId.ofJson?
  let method := (v.get? "method").bind Json.text?
  let params := (v.get? "params").getD .null
  match id, method with
  | some id, some method => some (.request id method params)
  | some _, none => if isResponse v then some .response else none
  | none, some method => some (.notification method params)
  | none, none => none

end Incoming

end ContractLint
