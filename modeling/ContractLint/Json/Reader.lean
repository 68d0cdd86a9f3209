import ContractLint.Json.Number

namespace ContractLint.Json

abbrev Reader (α : Type) := List Char → Except Fault (α × List Char)

def maxNesting : Nat :=
  127

def isGap (c : Char) : Bool :=
  c = ' ' || c = '\t' || c = '\n' || c = '\r'

def skipGap (t : List Char) : List Char :=
  t.dropWhile isGap

def readWord : List Char → List Char → Except Fault (List Char)
  | [], t => .ok t
  | _ :: _, [] => .error (.here .endInValue [])
  | w :: ws, c :: t => if c = w then readWord ws t else .error (.next .wordExpected (c :: t))

section Strings

def hexValue (c : Char) : Option Nat :=
  if isDigit c then some (digitValue c)
  else if 'a' ≤ c && c ≤ 'f' then some (c.toNat - 'a'.toNat + 10)
  else if 'A' ≤ c && c ≤ 'F' then some (c.toNat - 'A'.toNat + 10)
  else none

def hexUnit (a b c d : Char) : Option Nat := do
  let a ← hexValue a
  let b ← hexValue b
  let c ← hexValue c
  let d ← hexValue d
  return ((a * 16 + b) * 16 + c) * 16 + d

def byteLength : List Char → Nat
  | [] => 0
  | c :: cs => c.utf8Size + byteLength cs

def badUnit (t : List Char) : Fault :=
  if byteLength t < 4 then .here .endInString [] else .placed .badEscape t 4

def isLowSurrogate (n : Nat) : Bool :=
  0xDC00 ≤ n && n ≤ 0xDFFF

def isHighSurrogate (n : Nat) : Bool :=
  0xD800 ≤ n && n ≤ 0xDBFF

def joinSurrogates (high low : Nat) : Char :=
  Char.ofNat ((high - 0xD800) * 0x400 + (low - 0xDC00) + 0x10000)

def simpleEscape (c : Char) : Option Char :=
  match c with
  | '"' => some '"'
  | '\\' => some '\\'
  | '/' => some '/'
  | 'b' => some '\x08'
  | 'f' => some '\x0c'
  | 'n' => some '\n'
  | 'r' => some '\r'
  | 't' => some '\t'
  | _ => none

def isControl (c : Char) : Bool :=
  c.toNat < 0x20

def prepend (c : Char) : Except Fault (List Char × List Char) → Except Fault (List Char × List Char)
  | .ok (cs, rest) => .ok (c :: cs, rest)
  | .error f => .error f

def readString : Reader (List Char)
  | [] => .error (.here .endInString [])
  | '"' :: r => .ok ([], r)
  | '\\' :: r =>
      match r with
      | [] => .error (.here .endInString [])
      | 'u' :: a :: b :: c :: d :: s =>
          match hexUnit a b c d with
          | none => .error (badUnit (a :: b :: c :: d :: s))
          | some n =>
              if isLowSurrogate n then .error (.here .loneSurrogate s)
              else if isHighSurrogate n then
                match s with
                | '\\' :: 'u' :: e :: f :: g :: h :: w =>
                    match hexUnit e f g h with
                    | none => .error (badUnit (e :: f :: g :: h :: w))
                    | some m =>
                        if isLowSurrogate m then prepend (joinSurrogates n m) (readString w)
                        else .error (.here .loneSurrogate w)
                | '\\' :: 'u' :: w => .error (badUnit w)
                | ['\\'] => .error (.here .endInString [])
                | '\\' :: w => .error (.next .unfinishedSurrogate w)
                | [] => .error (.here .endInString [])
                | w => .error (.next .unfinishedSurrogate w)
              else prepend (Char.ofNat n) (readString s)
      | 'u' :: s => .error (badUnit s)
      | c :: s =>
          match simpleEscape c with
          | some e => prepend e (readString s)
          | none => .error (.next .badEscape (c :: s))
  | c :: r =>
      if isControl c then .error (.next .controlCharacter (c :: r)) else prepend c (readString r)

def skipString : List Char → Except Fault (List Char)
  | [] => .error (.here .endInString [])
  | '"' :: r => .ok r
  | '\\' :: r =>
      match r with
      | [] => .error (.here .endInString [])
      | 'u' :: a :: b :: c :: d :: s =>
          match hexUnit a b c d with
          | none => .error (badUnit (a :: b :: c :: d :: s))
          | some _ => skipString s
      | 'u' :: s => .error (badUnit s)
      | c :: s =>
          match simpleEscape c with
          | some _ => skipString s
          | none => .error (.next .badEscape (c :: s))
  | c :: r => if isControl c then .error (.here .controlCharacter (c :: r)) else skipString r

end Strings

inductive Mode where
  | keep
  | skip
  deriving DecidableEq, Repr

section Containers

variable {α σ : Type}

def readItemsFrom (mode : Mode) (item : Reader α) : Nat → Reader (List α)
  | 0, t => .error (.here .endInList t)
  | fuel + 1, t => do
      let (a, t) ← item t
      match skipGap t with
      | [] => .error (.here .endInList [])
      | ']' :: r => .ok ([a], r)
      | ',' :: r =>
          match mode, skipGap r with
          | .keep, [] => .error (.here .endInValue [])
          | .keep, ']' :: s => .error (.next .trailingComma (']' :: s))
          | _, s => do
              let (as, rest) ← readItemsFrom mode item fuel s
              return (a :: as, rest)
      | r => .error (.next .listCommaExpected r)

def readItems (mode : Mode) (item : Reader α) : Reader (List α) := fun t =>
  match skipGap t with
  | [] => .error (.here .endInList [])
  | ']' :: r => .ok ([], r)
  | s => readItemsFrom mode item s.length s

def readName (mode : Mode) : Reader String := fun t =>
  match mode with
  | .keep => do
      let (cs, rest) ← readString t
      return (String.ofList cs, rest)
  | .skip => do return ("", ← skipString t)

def readColon (t : List Char) : Except Fault (List Char) :=
  match skipGap t with
  | [] => .error (.here .endInObject [])
  | ':' :: r => .ok r
  | r => .error (.next .colonExpected r)

/-- Members from behind the opening quote of the first name on; `member` gets what was gathered so
far and reads on behind the name. -/
def readMembersFrom (mode : Mode) (member : σ → String → Reader σ) : Nat → σ → Reader σ
  | 0, _, t => .error (.here .endInObject t)
  | fuel + 1, state, t => do
      let (name, t) ← readName mode t
      let (state, t) ← member state name t
      match skipGap t with
      | [] => .error (.here .endInObject [])
      | '}' :: r => .ok (state, r)
      | ',' :: r =>
          match mode, skipGap r with
          | _, '"' :: s => readMembersFrom mode member fuel state s
          | .keep, [] => .error (.here .endInValue [])
          | .keep, '}' :: s => .error (.next .trailingComma ('}' :: s))
          | .skip, [] => .error (.here .endInObject [])
          | _, s => .error (.next .keyExpected s)
      | r => .error (.next .objectCommaExpected r)

def readMembers (mode : Mode) (member : σ → String → Reader σ) (init : σ) : Reader σ := fun t =>
  match skipGap t with
  | [] => .error (.here .endInObject [])
  | '}' :: r => .ok (init, r)
  | '"' :: r => readMembersFrom mode member (r.length + 1) init r
  | r => .error (.next .keyExpected r)

end Containers

def readScalar : Reader Json
  | [] => .error (.here .endInValue [])
  | 'n' :: r => do return (.null, ← readWord ['u', 'l', 'l'] r)
  | 't' :: r => do return (.bool true, ← readWord ['r', 'u', 'e'] r)
  | 'f' :: r => do return (.bool false, ← readWord ['a', 'l', 's', 'e'] r)
  | '"' :: r => do
      let (cs, rest) ← readString r
      return (.str (String.ofList cs), rest)
  | c :: r =>
      if c = '-' || isDigit c then readNumber (c :: r) else .error (.next .valueExpected (c :: r))

def keepMember (item : Reader Json) (ms : List (String × Json)) (name : String) :
    Reader (List (String × Json)) := fun t => do
  let (v, rest) ← item (← readColon t)
  return (ms ++ [(name, v)], rest)

def readValueWith (inner : Option (Reader Json)) : Reader Json := fun t =>
  match skipGap t with
  | '[' :: r =>
      match inner with
      | none => .error (.next .nestedTooDeep ('[' :: r))
      | some item => do
          let (items, rest) ← readItems .keep item r
          return (.arr items, rest)
  | '{' :: r =>
      match inner with
      | none => .error (.next .nestedTooDeep ('{' :: r))
      | some item => do
          let (members, rest) ← readMembers .keep (keepMember item) [] r
          return (.obj members, rest)
  | r => readScalar r

def readValue : (nesting : Nat) → Reader Json
  | 0 => readValueWith none
  | n + 1 => readValueWith (some (readValue n))

def skipScalar : List Char → Except Fault (List Char)
  | [] => .error (.here .endInValue [])
  | 'n' :: r => readWord ['u', 'l', 'l'] r
  | 't' :: r => readWord ['r', 'u', 'e'] r
  | 'f' :: r => readWord ['a', 'l', 's', 'e'] r
  | '"' :: r => skipString r
  | c :: r =>
      if c = '-' || isDigit c then skipNumber (c :: r) else .error (.next .valueExpected (c :: r))

def skipMember (item : Reader Unit) (_ : Unit) (_ : String) : Reader Unit := fun t => do
  item (← readColon t)

def skipValueWithin : Nat → List Char → Except Fault (List Char)
  | 0, t => .error (.here .endInValue t)
  | fuel + 1, t =>
      let item : Reader Unit := fun t => do return ((), ← skipValueWithin fuel t)
      match skipGap t with
      | '[' :: r => do return (← readItems .skip item r).2
      | '{' :: r => do return (← readMembers .skip (skipMember item) () r).2
      | r => skipScalar r

def skipValue (t : List Char) : Except Fault (List Char) :=
  skipValueWithin (t.length + 1) t

def readWhole {α : Type} (reader : Reader α) (text : String) : Except ReadError α :=
  let t := text.toList
  match reader t with
  | .error f => .error (f.locate t)
  | .ok (a, rest) =>
      match skipGap rest with
      | [] => .ok a
      | r => .error ((Fault.next .trailingText r).locate t)

def read (text : String) : Except ReadError Json :=
  readWhole (readValue maxNesting) text

end ContractLint.Json
