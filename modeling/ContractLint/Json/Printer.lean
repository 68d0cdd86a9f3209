import ContractLint.Decimal.Notation
import ContractLint.Json.Basic
import ContractLint.Text.Quoted

namespace ContractLint.Json

def escapeChar (c : Char) : List Char :=
  match c with
  | '"' => ['\\', '"']
  | '\\' => ['\\', '\\']
  | '\x08' => ['\\', 'b']
  | '\t' => ['\\', 't']
  | '\n' => ['\\', 'n']
  | '\x0c' => ['\\', 'f']
  | '\r' => ['\\', 'r']
  | c =>
      if c.toNat < 0x20 then
        ['\\', 'u', '0', '0', Text.hexDigit (c.toNat / 16), Text.hexDigit (c.toNat % 16)]
      else [c]

def stringText (s : String) : List Char :=
  '"' :: s.toList.flatMap escapeChar ++ ['"']

def commaJoined : List (List Char) → List Char
  | [] => []
  | [p] => p
  | p :: ps => p ++ ',' :: commaJoined ps

def memberText (m : String × List Char) : List Char :=
  stringText m.1 ++ ':' :: m.2

mutual

def compactChars : Json → List Char
  | .null => ['n', 'u', 'l', 'l']
  | .bool true => ['t', 'r', 'u', 'e']
  | .bool false => ['f', 'a', 'l', 's', 'e']
  | .int n => (toString n).toList
  | .float bits => (Decimal.compact.write bits).toList
  | .str s => stringText s
  | .arr items => '[' :: commaJoined (itemChars items) ++ [']']
  | .obj members =>
      '\x7b' :: commaJoined ((sortNamed (memberChars members)).map memberText) ++ ['\x7d']

def itemChars : List Json → List (List Char)
  | [] => []
  | v :: vs => compactChars v :: itemChars vs

def memberChars : List (String × Json) → List (String × List Char)
  | [] => []
  | (k, v) :: ms => (k, compactChars v) :: memberChars ms

end

def compact (v : Json) : String :=
  String.ofList v.compactChars

end ContractLint.Json
