namespace ContractLint.Text

variable {α : Type} [DecidableEq α]

def partsAt (separator : α) : List α → List (List α)
  | [] => [[]]
  | a :: as =>
      match partsAt separator as with
      | [] => [[a]]
      | part :: parts => if a = separator then [] :: part :: parts else (a :: part) :: parts

end ContractLint.Text
