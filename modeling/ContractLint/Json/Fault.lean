import ContractLint.Decimal.Notation
import ContractLint.Json.Basic
import ContractLint.Text.Quoted

namespace ContractLint.Json

inductive Found where
  | null
  | bool (b : Bool)
  | int (n : Int)
  | float (bits : UInt64)
  | text (s : String)
  | sequence
  | map
  deriving DecidableEq, Repr

def Found.message : Found → String
  | .null => "null"
  | .bool b => "boolean `" ++ (if b then "true" else "false") ++ "`"
  | .int n => "integer `" ++ toString n ++ "`"
  | .float bits => "floating point `" ++ Decimal.compact.write bits ++ "`"
  | .text s => "string " ++ Text.quoted s
  | .sequence => "sequence"
  | .map => "map"

def Found.ofJson : Json → Found
  | .null => .null
  | .bool b => .bool b
  | .int n => .int n
  | .float bits => .float bits
  | .str s => .text s
  | .arr _ => .sequence
  | .obj _ => .map

inductive Cause where
  | endInValue
  | endInList
  | endInObject
  | endInString
  | valueExpected
  | wordExpected
  | colonExpected
  | listCommaExpected
  | objectCommaExpected
  | keyExpected
  | trailingComma
  | trailingText
  | nestedTooDeep
  | badNumber
  | numberOutOfRange
  | badEscape
  | controlCharacter
  | loneSurrogate
  | unfinishedSurrogate
  | wrongType (found : Found) (expected : String)
  | wrongLength (found : Nat) (expected : String)
  | missingField (name : String)
  | repeatedField (name : String)
  | unknownVariant (name : String) (known : List String)
  | notAPosition (text : String)
  | noVariantMatches (type : String)
  | notSettings (value : String)
  deriving DecidableEq, Repr

inductive Category where
  | syntaxError
  | dataError
  | endOfText
  deriving DecidableEq, Repr

def Category.name : Category → String
  | .syntaxError => "syntax"
  | .dataError => "data"
  | .endOfText => "eof"

def Cause.category : Cause → Category
  | .endInValue | .endInList | .endInObject | .endInString => .endOfText
  | .wrongType .. | .wrongLength .. | .missingField _ | .repeatedField _ | .unknownVariant ..
  | .notAPosition _ | .noVariantMatches _ | .notSettings _ => .dataError
  | _ => .syntaxError

def ticked (s : String) : String :=
  "`" ++ s ++ "`"

def Cause.message : Cause → String
  | .endInValue => "EOF while parsing a value"
  | .endInList => "EOF while parsing a list"
  | .endInObject => "EOF while parsing an object"
  | .endInString => "EOF while parsing a string"
  | .valueExpected => "expected value"
  | .wordExpected => "expected ident"
  | .colonExpected => "expected `:`"
  | .listCommaExpected => "expected `,` or `]`"
  | .objectCommaExpected => "expected `,` or `\x7d`"
  | .keyExpected => "key must be a string"
  | .trailingComma => "trailing comma"
  | .trailingText => "trailing characters"
  | .nestedTooDeep => "recursion limit exceeded"
  | .badNumber => "invalid number"
  | .numberOutOfRange => "number out of range"
  | .badEscape => "invalid escape"
  | .controlCharacter => "control character (\\u0000-\\u001F) found while parsing a string"
  | .loneSurrogate => "lone leading surrogate in hex escape"
  | .unfinishedSurrogate => "unexpected end of hex escape"
  | .wrongType found expected => "invalid type: " ++ found.message ++ ", expected " ++ expected
  | .wrongLength found expected =>
      "invalid length " ++ toString found ++ ", expected " ++ expected
  | .missingField name => "missing field " ++ ticked name
  | .repeatedField name => "duplicate field " ++ ticked name
  | .unknownVariant name known =>
      "unknown variant " ++ ticked name ++ ", expected one of "
        ++ String.intercalate ", " (known.map ticked)
  | .notAPosition text =>
      "invalid value: " ++ Found.message (.text text) ++ ", expected an integer position"
  | .noVariantMatches type => "data did not match any variant of untagged enum " ++ type
  | .notSettings value => "expected settings object, found " ++ value

/-- A cause and the text that was still unread. A `loose` fault was raised inside a record and gets
its place when the record is left; a `placed` one lies `ahead` bytes into the unread text. -/
inductive Fault where
  | placed (cause : Cause) (rest : List Char) (ahead : Nat)
  | loose (cause : Cause) (rest : List Char)
  deriving DecidableEq, Repr

namespace Fault

def here (cause : Cause) (rest : List Char) : Fault :=
  .placed cause rest 0

def next (cause : Cause) (rest : List Char) : Fault :=
  .placed cause rest 1

def cause : Fault → Cause
  | .placed cause _ _ => cause
  | .loose cause _ => cause

def rest : Fault → List Char
  | .placed _ rest _ => rest
  | .loose _ rest => rest

def ahead : Fault → Nat
  | .placed _ _ ahead => ahead
  | .loose _ _ => 0

def settle (close : List Char → List Char) : Fault → Fault
  | .placed cause rest ahead => .placed cause rest ahead
  | .loose cause rest => .here cause (close rest)

end Fault

structure Position where
  line : Nat
  column : Nat
  deriving DecidableEq, Repr

namespace Position

def start : Position :=
  ⟨1, 0⟩

def after (p : Position) (c : Char) : Position :=
  if c = '\n' then ⟨p.line + 1, 0⟩ else ⟨p.line, p.column + c.utf8Size⟩

def advance (p : Position) : Nat → List Char → Position
  | _, [] => p
  | n, c :: cs =>
      if n = 0 then p
      else if n < c.utf8Size then ⟨p.line, p.column + n⟩
      else advance (p.after c) (n - c.utf8Size) cs

end Position

structure ReadError where
  cause : Cause
  position : Position
  deriving DecidableEq, Repr

def ReadError.message (e : ReadError) : String :=
  e.cause.message ++ " at line " ++ toString e.position.line ++ " column "
    ++ toString e.position.column

def Fault.locate (text : List Char) (f : Fault) : ReadError :=
  let read := text.take (text.length - f.rest.length)
  let reached := read.foldl Position.after Position.start
  ⟨f.cause, reached.advance f.ahead f.rest⟩

end ContractLint.Json
