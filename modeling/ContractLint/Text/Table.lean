import ContractLint.Text.Blank

namespace ContractLint.Text

abbrev Row := List Nat

def isHexDigit (c : Char) : Bool :=
  ('0' ≤ c && c ≤ '9') || ('A' ≤ c && c ≤ 'F')

def hexNumber (cs : List Char) : Nat :=
  cs.foldl (fun n c => n * 16 + if c ≤ '9' then c.toNat - 48 else c.toNat - 55) 0

def pieces (parts : Char → Bool) (cs : List Char) : List (List Char) :=
  let all := cs.foldr (fun c acc =>
    match acc with
    | [] => [[c]]
    | piece :: rest => if parts c then [] :: piece :: rest else (c :: piece) :: rest) [[]]
  all.filter fun piece => !piece.isEmpty

def rows (text : String) : List Row :=
  (pieces Char.isWhitespace text.toList).map fun word =>
    (pieces (fun c => !isHexDigit c) word).map hexNumber

def Ranges.ofText (text : String) : Ranges :=
  (rows text).filterMap fun row =>
    match row with
    | [n] => some (n, n)
    | [first, last] => some (first, last)
    | _ => none

abbrev Classes := List (Nat × Nat × Nat)

def Classes.ofText (text : String) : Classes :=
  (rows text).filterMap fun row =>
    match row with
    | [n, value] => some (n, n, value)
    | [first, last, value] => some (first, last, value)
    | _ => none

def Classes.find? (classes : Classes) (n : Nat) : Option Nat :=
  (List.find? (fun c => c.1 ≤ n && n ≤ c.2.1) classes).map (·.2.2)

end ContractLint.Text
