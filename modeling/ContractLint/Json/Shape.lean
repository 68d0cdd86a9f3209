import ContractLint.Json.Basic

namespace ContractLint.Json

def isInt32 : Json → Bool
  | .int n => -0x80000000 ≤ n && n ≤ 0x7FFFFFFF
  | _ => false

def isUInt32 : Json → Bool
  | .int n => 0 ≤ n && n ≤ 0xFFFFFFFF
  | _ => false

def isNull : Json → Bool
  | .null => true
  | _ => false

def variant? : Json → Option String
  | .str name => some name
  | .obj ((name, v) :: rest) =>
      if rest.all (·.1 = name) && ((lastNamed name rest).getD v).isNull then some name else none
  | _ => none

inductive Shape where
  | any
  | bool
  | int32
  | uint32
  | text
  | oneOf (names : List String)
  | optional (shape : Shape)
  | spare (shape : Shape)
  | list (item : Shape)
  | either (first second : Shape)
  | object (fields : List (String × Shape))
  | record (fields : List (String × Shape))
  deriving Inhabited

namespace Shape

def admitsAbsence : Shape → Bool
  | .optional _ | .spare _ => true
  | _ => false

def isSpare : Shape → Bool
  | .spare _ => true
  | _ => false

mutual

def admits : Shape → Json → Bool
  | .any, _ => true
  | .bool, v => v.bool?.isSome
  | .int32, v => v.isInt32
  | .uint32, v => v.isUInt32
  | .text, v => v.text?.isSome
  | .oneOf names, v => v.variant?.any names.contains
  | .optional shape, v => v.isNull || shape.admits v
  | .spare shape, v => v.isNull || shape.admits v
  | .list item, v => v.items?.any (·.all item.admits)
  | .either first second, v => first.admits v || second.admits v
  | .object fields, v => v.isObject && admitsMembers fields v
  | .record fields, v =>
      match v with
      | .obj _ => admitsMembers fields v
      | .arr items => admitsItems fields items
      | _ => false

def admitsMembers : List (String × Shape) → Json → Bool
  | [], _ => true
  | (name, shape) :: fields, v =>
      (match v.get? name with
        | some w => shape.admits w
        | none => shape.admitsAbsence) && admitsMembers fields v

def admitsItems : List (String × Shape) → List Json → Bool
  | [], items => items.isEmpty
  | (_, shape) :: fields, [] => shape.isSpare && admitsItems fields []
  | (_, shape) :: fields, v :: items => shape.admits v && admitsItems fields items

end

end Shape

end ContractLint.Json
