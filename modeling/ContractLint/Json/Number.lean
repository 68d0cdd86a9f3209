import ContractLint.Json.Fault

namespace ContractLint.Json

def isDigit (c : Char) : Bool :=
  '0' ≤ c && c ≤ '9'

def digitValue (c : Char) : Nat :=
  c.toNat - '0'.toNat

def digitsOf (t : List Char) : List Char × List Char :=
  (t.takeWhile isDigit, t.dropWhile isDigit)

def maxSignificand : Nat :=
  0xFFFFFFFFFFFFFFFF

/-- Appends digits to a significand while it fits 64 bits; the second part counts the digits taken,
the third those left over. -/
def absorb (significand : Nat) : List Char → Nat × Nat × Nat
  | [] => (significand, 0, 0)
  | d :: ds =>
      let wider := significand * 10 + digitValue d
      if maxSignificand < wider then (significand, 0, ds.length + 1)
      else
        let (s, taken, left) := absorb wider ds
        (s, taken + 1, left)

def tenTo (n : Nat) : Float :=
  Float.ofScientific 1 false n

def scaleBy : Nat → Float → Int → Option Float
  | 0, f, _ => some f
  | fuel + 1, f, e =>
      if e.natAbs ≤ 308 then
        if 0 ≤ e then
          let g := f * tenTo e.natAbs
          if g.isInf then none else some g
        else some (f / tenTo e.natAbs)
      else if f == 0.0 then some f
      else if 0 ≤ e then none
      else scaleBy fuel (f / tenTo 308) (e + 308)

def scaled (negative : Bool) (significand : Nat) (e : Int) (rest : List Char) :
    Except Fault (Json × List Char) :=
  match scaleBy (e.natAbs / 308 + 2) (significand.toUInt64.toFloat) e with
  | none => .error (.here .numberOutOfRange rest)
  | some f => .ok (.float (if negative then -f else f).toBits, rest)

def maxExponent : Nat :=
  0x7FFFFFFF

def minExponent : Int :=
  -0x80000000

def exponentValue (value : Nat) (after : List Char) : List Char → Except (List Char) Nat
  | [] => .ok value
  | d :: ds =>
      let wider := value * 10 + digitValue d
      if maxExponent < wider then .error (ds ++ after) else exponentValue wider after ds

def clampExponent (e : Int) : Int :=
  max minExponent (min (maxExponent : Int) e)

def readExponentDigits (negative : Bool) (significand : Nat) (start : Int) (down : Bool)
    (t : List Char) : Except Fault (Json × List Char) :=
  match t with
  | [] => .error (.here .endInValue [])
  | c :: _ =>
      if !isDigit c then .error (.next .badNumber t)
      else
        let (ds, rest) := digitsOf t
        match exponentValue 0 rest ds with
        | .ok value =>
            let e := if down then start - value else start + value
            scaled negative significand (clampExponent e) rest
        | .error unread =>
            if significand != 0 && !down then .error (.here .numberOutOfRange unread)
            else .ok (.float (if negative then -0.0 else 0.0 : Float).toBits, rest)

def readExponent (negative : Bool) (significand : Nat) (start : Int) :
    List Char → Except Fault (Json × List Char)
  | '+' :: r => readExponentDigits negative significand start false r
  | '-' :: r => readExponentDigits negative significand start true r
  | t => readExponentDigits negative significand start false t

def readFraction (negative : Bool) (significand : Nat) (start : Int) (t : List Char) :
    Except Fault (Json × List Char) :=
  let (ds, rest) := digitsOf t
  match ds, rest with
  | [], [] => .error (.next .endInValue [])
  | [], _ => .error (.next .badNumber rest)
  | _, _ =>
      let (significand, taken, _) := absorb significand ds
      let e := start - taken
      match rest with
      | 'e' :: r | 'E' :: r => readExponent negative significand e r
      | r => scaled negative significand e r

def wholeNumber (negative : Bool) (significand : Nat) : Json :=
  if !negative then .int significand
  else if significand = 0 || 0x8000000000000000 < significand then
    .float (-(significand.toUInt64.toFloat)).toBits
  else .int (-(significand : Int))

def readUnsigned (negative : Bool) (t : List Char) : Except Fault (Json × List Char) :=
  match t with
  | [] => .error (.here .endInValue [])
  | '0' :: r =>
      match r with
      | c :: _ => if isDigit c then .error (.next .badNumber r) else tail 0 0 r
      | [] => tail 0 0 r
  | c :: _ =>
      if !isDigit c then .error (.next .badNumber t)
      else
        let (ds, rest) := digitsOf t
        let (significand, _, left) := absorb 0 ds
        tail significand left rest
where
  tail (significand left : Nat) (rest : List Char) : Except Fault (Json × List Char) :=
    match rest with
    | '.' :: r => readFraction negative significand left r
    | 'e' :: r | 'E' :: r => readExponent negative significand left r
    | r =>
        if left = 0 then .ok (wholeNumber negative significand, r)
        else scaled negative significand left r

def readNumber : List Char → Except Fault (Json × List Char)
  | '-' :: r => readUnsigned true r
  | t => readUnsigned false t

def skipDigits (t : List Char) : Except Fault (List Char) :=
  match t with
  | [] => .error (.here .badNumber [])
  | c :: r => if isDigit c then .ok (r.dropWhile isDigit) else .error (.next .badNumber t)

def skipExponent : List Char → Except Fault (List Char)
  | '+' :: r | '-' :: r => skipDigits r
  | t => skipDigits t

def skipPower : List Char → Except Fault (List Char)
  | 'e' :: r | 'E' :: r => skipExponent r
  | r => .ok r

def skipFraction (t : List Char) : Except Fault (List Char) := do
  skipPower (← skipDigits t)

def skipTail : List Char → Except Fault (List Char)
  | '.' :: r => skipFraction r
  | t => skipPower t

def skipWhole : List Char → Except Fault (List Char)
  | '0' :: c :: r => if isDigit c then .error (.next .badNumber (c :: r)) else .ok (c :: r)
  | t => skipDigits t

def skipUnsigned (t : List Char) : Except Fault (List Char) := do
  skipTail (← skipWhole t)

def skipNumber : List Char → Except Fault (List Char)
  | '-' :: r => skipUnsigned r
  | t => skipUnsigned t

end ContractLint.Json
