import ContractLint.Json.Number
import ContractLint.Text.Blank

namespace ContractLint

structure Finding where
  tag : String
  description : String
  startLine : Int64
  startColumn : Int64
  endLine : Int64
  endColumn : Int64
  deriving DecidableEq, Repr, Inhabited

namespace Coordinate

def least : Int :=
  -0x8000000000000000

def greatest : Int :=
  0x7FFFFFFFFFFFFFFF

def ofInt? (n : Int) : Option Int64 :=
  if least ≤ n ∧ n ≤ greatest then some (Int64.ofInt n) else none

def digits? (cs : List Char) : Option Nat :=
  if cs != [] && cs.all Json.isDigit then some (Nat.ofDigitChars 10 cs 0) else none

def numeral? : List Char → Option Int
  | '-' :: cs => (digits? cs).map fun n => -(n : Int)
  | '+' :: cs => (digits? cs).map fun n => (n : Int)
  | cs => (digits? cs).map fun n => (n : Int)

def ofText? (s : String) : Option Int64 :=
  (numeral? (Text.trim s.toList)).bind ofInt?

open Json in
def ofJson : Json → Except Cause Int64
  | .int n =>
      match ofInt? n with
      | some c => .ok c
      | none => .error (.noVariantMatches "Coordinate")
  | .str s =>
      match ofText? s with
      | some c => .ok c
      | none => .error (.notAPosition s)
  | _ => .error (.noVariantMatches "Coordinate")

end Coordinate

end ContractLint
