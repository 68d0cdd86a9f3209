import ContractLint.Decimal.Shortest

namespace ContractLint.Decimal

structure Notation where
  least : Int
  greatest : Int
  deriving DecidableEq, Repr

def Notation.isPositional (n : Notation) (e : Int) : Bool :=
  n.least ≤ e && e ≤ n.greatest

def digitChars (n : Nat) : List Char :=
  Nat.toDigits 10 n

def layPositional (ds : List Char) (point : Int) : List Char :=
  if point ≤ 0 then
    ['0', '.'] ++ List.replicate (-point).toNat '0' ++ ds
  else if ds.length ≤ point.toNat then
    ds ++ List.replicate (point.toNat - ds.length) '0' ++ ['.', '0']
  else
    ds.take point.toNat ++ '.' :: ds.drop point.toNat

def layExponent (ds : List Char) (e : Int) : List Char :=
  let lead := match ds with
    | [] => []
    | [d] => [d]
    | d :: rest => d :: '.' :: rest
  lead ++ 'e' :: (if e < 0 then '-' else '+') :: digitChars e.natAbs

def Notation.write (n : Notation) (bits : UInt64) : String :=
  let x := Binary.ofBits bits
  let sign := if isNegative bits then ['-'] else []
  if x.mantissa = 0 then String.ofList (sign ++ ['0', '.', '0'])
  else
    let d := x.select
    let ds := digitChars d.digits
    let point := d.exponent + ds.length
    let body :=
      if n.isPositional (point - 1) then layPositional ds point else layExponent ds (point - 1)
    String.ofList (sign ++ body)

def compact : Notation where
  least := -5
  greatest := 15

end ContractLint.Decimal
