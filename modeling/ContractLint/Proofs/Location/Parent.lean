import ContractLint.Proofs.Analysis.Places
import Mathlib.Data.List.TakeWhile

namespace ContractLint

open Text

section Ends

variable {α : Type} {f : α → Bool} {l as : List α} {a : α}

end Ends

namespace Path

variable {p d : Path} {name : Bytes} {parts : List Bytes}

end Path

end ContractLint
