namespace ContractLint

/-- An integer is a literal without fraction and exponent that fits 64 bits; any other number is a
binary64 value, kept as its bits. -/
inductive Json where
  | null
  | bool (b : Bool)
  | int (n : Int)
  | float (bits : UInt64)
  | str (s : String)
  | arr (items : List Json)
  | obj (members : List (String × Json))
  deriving Repr, BEq, Inhabited

namespace Json

section Members

variable {α : Type}

def lastNamed (key : String) : List (String × α) → Option α
  | [] => none
  | (k, v) :: rest =>
      match lastNamed key rest with
      | some w => some w
      | none => if k = key then some v else none

def insertNamed (key : String) (value : α) : List (String × α) → List (String × α)
  | [] => [(key, value)]
  | (k, v) :: rest =>
      if key < k then (key, value) :: (k, v) :: rest
      else if key = k then (key, value) :: rest
      else (k, v) :: insertNamed key value rest

def sortNamed (members : List (String × α)) : List (String × α) :=
  members.foldl (fun acc m => insertNamed m.1 m.2 acc) []

end Members

def get? : Json → String → Option Json
  | .obj members, key => lastNamed key members
  | _, _ => none

def isObject : Json → Bool
  | .obj _ => true
  | _ => false

def text? : Json → Option String
  | .str s => some s
  | _ => none

def bool? : Json → Option Bool
  | .bool b => some b
  | _ => none

def items? : Json → Option (List Json)
  | .arr items => some items
  | _ => none

end Json

end ContractLint
