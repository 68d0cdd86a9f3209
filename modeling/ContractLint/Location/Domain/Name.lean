import ContractLint.Location.Domain.Label
import ContractLint.Text.Split

namespace ContractLint.Domain

open Text

def mappedText? (name : List Char) : Option (List Char) :=
  (name.mapM mapped?).map fun parts => normal parts.flatten

def labels (name : List Char) : List (List Char) :=
  partsAt '.' name

def ascii? (name : List Char) : Option (List Char) := do
  let labels ← (labels (← mappedText? name)).mapM Label.ofMapped?
  if labels.any Label.isBidirectional && !labels.all Label.keepsDirection then none
  else some (List.intercalate ['.'] (labels.map (·.ascii)))

end ContractLint.Domain
