import ContractLint.Location.Domain.Name
import ContractLint.Location.Percent

namespace ContractLint.Host

open Text

def isForbidden (c : Char) : Bool :=
  c = '\x00' || c = '\t' || c = '\n' || c = '\r' || c = ' ' || c = '#' || c = '/' || c = ':'
    || c = '<' || c = '>' || c = '?' || c = '@' || c = '[' || c = '\\' || c = ']' || c = '^'
    || c = '|'

def isForbiddenInName (c : Char) : Bool :=
  isForbidden c || c.toNat < 0x20 || c = '%' || 0x7E < c.toNat

def digit? (c : Char) : Option Nat :=
  (Percent.hexValue (UInt8.ofNat c.toNat)).filter fun _ => c.toNat < 0x80

def numberIn (base : Nat) : Nat → List Char → Option Nat
  | n, [] => some n
  | n, c :: cs => do
      let d ← digit? c
      if d < base then numberIn base (n * base + d) cs else none

def part? : List Char → Option Nat
  | [] => none
  | '0' :: 'x' :: cs | '0' :: 'X' :: cs => numberIn 16 0 cs
  | ['0'] => some 0
  | '0' :: cs => numberIn 8 0 cs
  | cs => numberIn 10 0 cs

def labels (name : List Char) : List (List Char) :=
  let parts := partsAt '.' name
  if parts.getLast? = some [] && 1 < parts.length then parts.dropLast else parts

def isNumeric (name : List Char) : Bool :=
  match (labels name).getLast? with
  | none | some [] => false
  | some last => last.all (fun c => '0' ≤ c && c ≤ '9') || (part? last).isSome

def addressOf (count : Nat) : List Nat → Option Nat
  | [] => none
  | [last] => if last < Nat.pow 256 (5 - count) then some last else none
  | p :: ps => do
      let rest ← addressOf count ps
      if p < 256 then some (p * Nat.pow 256 (ps.length + (4 - count)) + rest) else none

def dotted (n : Nat) : String :=
  String.intercalate "." ([n / 0x1000000, n / 0x10000 % 256, n / 256 % 256, n % 256].map toString)

def ipv4? (name : List Char) : Option Nat := do
  let parts ← (labels name).mapM part?
  if parts.length ≤ 4 then addressOf parts.length parts else none

def group? (cs : List Char) : Option Nat :=
  if cs != [] && cs.length ≤ 4 then numberIn 16 0 cs else none

def byte? (cs : List Char) : Option Nat := do
  if cs = [] || 3 < cs.length || cs.head? = some '0' && cs != ['0'] then none
  let n ← numberIn 10 0 cs
  if n < 256 then some n else none

def groups? (cs : List Char) : Option (List Nat) :=
  if cs = [] then some [] else (partsAt ':' cs).mapM group?

def lastGroups? (cs : List Char) : Option (List Nat) :=
  match (partsAt ':' cs).getLast?.filter (·.contains '.') with
  | none => groups? cs
  | some tail => do
      let front ← (partsAt ':' cs).dropLast.mapM group?
      match ← (partsAt '.' tail).mapM byte? with
      | [a, b, c, d] => some (front ++ [a * 256 + b, c * 256 + d])
      | _ => none

def splitDouble : List Char → Option (List Char × List Char)
  | ':' :: ':' :: rest => some ([], rest)
  | c :: cs => (splitDouble cs).map fun (a, b) => (c :: a, b)
  | [] => none

def ipv6? (cs : List Char) : Option (List Nat) :=
  match splitDouble cs with
  | none => do
      let gs ← lastGroups? cs
      if gs.length = 8 then some gs else none
  | some (front, back) => do
      let front ← groups? front
      let back ← lastGroups? back
      let count := front.length + back.length
      if count ≤ 7 then some (front ++ List.replicate (8 - count) 0 ++ back) else none

def zeros (gs : List Nat) : Nat :=
  (gs.takeWhile (· = 0)).length

def longestRun (gs : List Nat) : Nat × Nat :=
  (List.range gs.length).foldl
    (fun best i => if best.2 < zeros (gs.drop i) then (i, zeros (gs.drop i)) else best) (0, 0)

def groupText (n : Nat) : String :=
  String.ofList (Nat.toDigits 16 n)

def colons (gs : List Nat) : String :=
  String.intercalate ":" (gs.map groupText)

def ipv6Text (gs : List Nat) : String :=
  let (start, length) := longestRun gs
  if length < 2 then colons gs
  else colons (gs.take start) ++ "::" ++ colons (gs.drop (start + length))

def bracketed? : List Char → Option (List Char)
  | '[' :: cs => if cs.getLast? = some ']' then some cs.dropLast else none
  | _ => none

def name? (cs : List Char) : Option String :=
  if cs.head? = some '[' then do
    let inner ← bracketed? cs
    let gs ← ipv6? inner
    some ("[" ++ ipv6Text gs ++ "]")
  else do
    let decoded ← Bytes.text? (Percent.decode (Bytes.ofString (String.ofList cs)))
    let name ← Domain.ascii? decoded.toList
    if name = [] || name.any isForbiddenInName then none
    else if isNumeric name then (ipv4? name).map dotted
    else some (String.ofList name)

def kept? (cs : List Char) : Option String :=
  if cs.head? = some '[' then name? cs
  else if cs.any isForbidden then none
  else some (Percent.encodeText Percent.controls cs)

end ContractLint.Host
