import ContractLint.Json.Reader

namespace ContractLint.Json

variable {α σ : Type}

def mistyped (expected : String) (t : List Char) : Fault :=
  match t with
  | '[' :: _ => .here (.wrongType .sequence expected) t
  | '{' :: _ => .here (.wrongType .map expected) t
  | _ =>
      match readScalar t with
      | .ok (v, rest) => .here (.wrongType (.ofJson v) expected) rest
      | .error f => f

def readText : Reader String := fun t =>
  match skipGap t with
  | [] => .error (.here .endInValue [])
  | '"' :: r => do
      let (cs, rest) ← readString r
      return (String.ofList cs, rest)
  | r => .error (mistyped "a string" r)

def readSequence (item : Nat → Reader α) : Nat → Reader (List α) := fun nesting t =>
  match skipGap t with
  | [] => .error (.here .endInValue [])
  | '[' :: r =>
      match nesting with
      | 0 => .error (.next .nestedTooDeep ('[' :: r))
      | n + 1 => readItems .keep (item n) r
  | r => .error (mistyped "a sequence" r)

section Variants

def readVariantName (variants : List (String × α)) : Reader α := fun t =>
  match skipGap t with
  | [] => .error (.here .endInValue [])
  | '"' :: r => do
      let (cs, rest) ← readString r
      let name := String.ofList cs
      match variants.lookup name with
      | some a => return (a, rest)
      | none => .error (.here (.unknownVariant name (variants.map (·.1))) rest)
  | r => .error (mistyped "variant identifier" r)

def readNull (t : List Char) : Except Fault (List Char) :=
  match skipGap t with
  | [] => .error (.here .endInValue [])
  | 'n' :: r => readWord ['u', 'l', 'l'] r
  | r => .error (mistyped "unit" r)

def readVariant (variants : List (String × α)) : Nat → Reader α := fun nesting t =>
  match skipGap t with
  | [] => .error (.here .endInValue [])
  | '"' :: r => readVariantName variants ('"' :: r)
  | '{' :: r =>
      match nesting with
      | 0 => .error (.next .nestedTooDeep ('{' :: r))
      | _ + 1 => do
          let (a, t) ← match skipGap r with
            | [] => .error (.here .endInObject [])
            | '}' :: s => .error (.next .valueExpected ('}' :: s))
            | '"' :: s => readVariantName variants ('"' :: s)
            | s => .error (.next .keyExpected s)
          let t ← readNull (← readColon t)
          match skipGap t with
          | [] => .error (.here .endInObject [])
          | '}' :: rest => .ok (a, rest)
          | rest => .error (.here .valueExpected rest)
  | r => .error (.next .valueExpected r)

end Variants

section Records

structure RecordField (σ : Type) where
  name : String
  aliases : List String
  Value : Type
  get : σ → Option Value
  set : σ → Value → σ
  read : Nat → Reader Value

namespace RecordField

variable (f : RecordField σ)

def answersTo (name : String) : Bool :=
  f.name = name || f.aliases.contains name

def fill (nesting : Nat) (draft : σ) : Reader σ := fun t => do
  let (a, rest) ← f.read nesting t
  return (f.set draft a, rest)

end RecordField

structure Record (σ α : Type) where
  title : String
  sized : String
  fields : List (RecordField σ)
  blank : σ
  finish : σ → Except String α

namespace Record

variable (shape : Record σ α)

def readMember (nesting : Nat) (draft : σ) (name : String) : Reader σ := fun t =>
  match shape.fields.find? (·.answersTo name) with
  | none => do return (draft, ← skipValue (← readColon t))
  | some f =>
      if (f.get draft).isSome then .error (.loose (.repeatedField f.name) t)
      else do f.fill nesting draft (← readColon t)

def closeObject (t : List Char) : List Char :=
  match skipGap t with
  | '}' :: r => r
  | r => r

def closeList (t : List Char) : List Char :=
  match skipGap t with
  | ']' :: r => r
  | ',' :: r => skipGap r
  | r => r

def readObject (nesting : Nat) : Reader α := fun t => do
  let (draft, rest) ←
    (readMembers .keep (shape.readMember nesting) shape.blank t).mapError (·.settle closeObject)
  match shape.finish draft with
  | .ok a => return (a, rest)
  | .error name => .error (.here (.missingField name) rest)

def nextField (count : Nat) (t : List Char) : Except Fault (List Char) :=
  match skipGap t with
  | [] => .error (.here .endInList [])
  | ']' :: r => .error (.loose (.wrongLength count shape.sized) (']' :: r))
  | r =>
      if count = 0 then .ok r
      else
        match r with
        | ',' :: r =>
            match skipGap r with
            | [] => .error (.here .endInValue [])
            | ']' :: s => .error (.next .trailingComma (']' :: s))
            | s => .ok s
        | r => .error (.next .listCommaExpected r)

def fillInOrder (nesting : Nat) : List (RecordField σ) → Nat → σ → Reader σ
  | [], _, draft, t => .ok (draft, t)
  | f :: fs, count, draft, t => do
      let (draft, t) ← f.fill nesting draft (← shape.nextField count t)
      fillInOrder nesting fs (count + 1) draft t

def endList (t : List Char) : Except Fault (List Char) :=
  match skipGap t with
  | [] => .error (.here .endInList [])
  | ']' :: r => .ok r
  | ',' :: r =>
      match skipGap r with
      | ']' :: s => .error (.next .trailingComma (']' :: s))
      | s => .error (.next .trailingText s)
  | r => .error (.next .trailingText r)

def readArray (nesting : Nat) : Reader α := fun t => do
  let (draft, t) ←
    (shape.fillInOrder nesting shape.fields 0 shape.blank t).mapError (·.settle closeList)
  match shape.finish draft with
  | .ok a => return (a, ← endList t)
  | .error name => .error (.here (.missingField name) (closeList t))

def read : Nat → Reader α := fun nesting t =>
  match skipGap t with
  | [] => .error (.here .endInValue [])
  | '[' :: r =>
      match nesting with
      | 0 => .error (.next .nestedTooDeep ('[' :: r))
      | n + 1 => shape.readArray n r
  | '{' :: r =>
      match nesting with
      | 0 => .error (.next .nestedTooDeep ('{' :: r))
      | n + 1 => shape.readObject n r
  | r => .error (mistyped shape.title r)

end Record

end Records

end ContractLint.Json
