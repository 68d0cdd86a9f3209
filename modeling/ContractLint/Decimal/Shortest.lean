namespace ContractLint.Decimal

structure Binary where
  mantissa : Nat
  exponent : Int
  narrowBelow : Bool
  deriving DecidableEq, Repr

def leadingBit : Nat :=
  0x10000000000000

def Binary.ofBits (bits : UInt64) : Binary :=
  let e : Nat := bits.toNat / leadingBit % 0x800
  let f : Nat := bits.toNat % leadingBit
  if e = 0 then ⟨f, -1074, false⟩ else ⟨leadingBit + f, (e : Int) - 1075, f == 0 && 1 < e⟩

def isNegative (bits : UInt64) : Bool :=
  0x8000000000000000 ≤ bits.toNat

structure Numeral where
  digits : Nat
  exponent : Int
  deriving DecidableEq, Repr

def natPow (base : Nat) (e : Int) : Nat :=
  Nat.pow base e.toNat

def compareScaled (a : Nat) (i : Int) (n : Nat) (j : Int) : Ordering :=
  compare (a * natPow 10 i * natPow 2 (-j)) (n * natPow 2 j * natPow 10 (-i))

/-- The decimal lies among the reals that round to the value, ends included for an even mantissa. -/
def Binary.readsBack (x : Binary) (d : Numeral) : Bool :=
  let low := 4 * x.mantissa - if x.narrowBelow then 1 else 2
  let high := 4 * x.mantissa + 2
  let ends := x.mantissa % 2 == 0
  let below := compareScaled d.digits d.exponent low (x.exponent - 2)
  let above := compareScaled d.digits d.exponent high (x.exponent - 2)
  (below == .gt || ends && below == .eq) && (above == .lt || ends && above == .eq)

def Binary.numerator (x : Binary) : Nat :=
  x.mantissa * natPow 2 x.exponent

def Binary.denominator (x : Binary) : Nat :=
  natPow 2 (-x.exponent)

def digitCount (n : Nat) : Nat :=
  (Nat.toDigits 10 n).length

def Binary.scale (x : Binary) : Int :=
  if x.denominator ≤ x.numerator then digitCount (x.numerator / x.denominator)
  else 1 - (digitCount (x.denominator / x.numerator) : Int)

def Binary.floorOn (x : Binary) (grid : Int) : Nat :=
  x.numerator * natPow 10 (-grid) / (x.denominator * natPow 10 grid)

def Binary.nearer (x : Binary) (grid : Int) (floor : Nat) : Ordering :=
  compareScaled (2 * floor + 1) grid (2 * x.mantissa) x.exponent

def Binary.onGrid (x : Binary) (grid : Int) : Option Numeral :=
  let floor := x.floorOn grid
  let low : Numeral := ⟨floor, grid⟩
  let high : Numeral := ⟨floor + 1, grid⟩
  match x.readsBack low && floor != 0, x.readsBack high with
  | true, false => some low
  | false, true => some high
  | false, false => none
  | true, true =>
      match x.nearer grid floor with
      | .gt => some low
      | .lt => some high
      | .eq => if floor % 2 = 0 then some low else some high

def stripZeros : Nat → Numeral → Numeral
  | 0, d => d
  | fuel + 1, d =>
      if d.digits % 10 = 0 && d.digits != 0 then stripZeros fuel ⟨d.digits / 10, d.exponent + 1⟩
      else d

def Binary.exact (x : Binary) : Numeral :=
  ⟨x.mantissa * natPow 2 x.exponent * natPow 5 (-x.exponent), min x.exponent 0⟩

def Binary.select (x : Binary) : Numeral :=
  let scale := x.scale
  let found := (List.range 17).findSome? fun n => x.onGrid (scale - (n + 1 : Nat))
  let d := found.getD x.exact
  stripZeros (digitCount d.digits) d

end ContractLint.Decimal
