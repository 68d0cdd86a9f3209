namespace ContractLint.Punycode

def isAscii (c : Char) : Bool :=
  c.toNat < 0x80

def digitOf (n : Nat) : Char :=
  if n < 26 then Char.ofNat (0x61 + n) else Char.ofNat (0x30 + (n - 26))

def valueOf? (c : Char) : Option Nat :=
  if 'a' ≤ c && c ≤ 'z' then some (c.toNat - 0x61)
  else if 'A' ≤ c && c ≤ 'Z' then some (c.toNat - 0x41)
  else if '0' ≤ c && c ≤ '9' then some (c.toNat - 0x30 + 26)
  else none

def base : Nat := 36

def firstCode : Nat := 0x80

def firstBias : Nat := 72

def threshold (place bias : Nat) : Nat :=
  if place ≤ bias then 1 else min (place - bias) 26

theorem one_le_threshold (place bias : Nat) : 1 ≤ threshold place bias := by
  unfold threshold
  split <;> omega

def reduce (step : Nat) : Nat × Nat :=
  if 455 < step then
    let (rest, count) := reduce (step / 35)
    (rest, count + 1)
  else (step, 0)
termination_by step

def adapt (step count : Nat) (isFirst : Bool) : Nat :=
  let halved := if isFirst then step / 700 else step / 2
  let (rest, divisions) := reduce (halved + halved / count)
  base * divisions + base * rest / (rest + 38)

section Encoding

def digits (bias place n : Nat) : List Char :=
  let t := threshold place bias
  if n < t then [digitOf n]
  else digitOf (t + (n - t) % (base - t)) :: digits bias (place + base) ((n - t) / (base - t))
termination_by n
decreasing_by
  have h := one_le_threshold place bias
  exact Nat.lt_of_le_of_lt (Nat.div_le_self _ _) (by omega)

structure Encoder where
  count : Nat
  step : Nat := 0
  bias : Nat := firstBias
  isFirst : Bool := true
  out : List Char := []

def Encoder.pass (code : Nat) (e : Encoder) (c : Char) : Encoder :=
  if c.toNat < code then { e with step := e.step + 1 }
  else if c.toNat = code then
    { count := e.count + 1
      bias := adapt e.step (e.count + 1) e.isFirst
      isFirst := false
      out := e.out ++ digits e.bias base e.step }
  else e

def Encoder.run (label : List Char) (e : Encoder) (next : Nat) : List Nat → Encoder
  | [] => e
  | code :: codes =>
      let start := { e with step := e.step + (code - next) * (e.count + 1) }
      let e := label.foldl (pass code) start
      run label { e with step := e.step + 1 } (code + 1) codes

def insertOnce (n : Nat) : List Nat → List Nat
  | [] => [n]
  | m :: ms => if n < m then n :: m :: ms else if n = m then m :: ms else m :: insertOnce n ms

def codesOf (label : List Char) : List Nat :=
  (label.filter fun c => !isAscii c).foldr (fun c codes => insertOnce c.toNat codes) []

def encode (label : List Char) : List Char :=
  let basic := label.filter isAscii
  let start : Encoder := { count := basic.length }
  basic ++ (if basic.isEmpty then [] else ['-'])
    ++ (start.run label firstCode (codesOf label)).out

end Encoding

section Decoding

structure Decoder where
  out : List Char
  code : Nat := firstCode
  spot : Nat := 0
  bias : Nat := firstBias
  isFirst : Bool := true
  step : Nat := 0
  weight : Nat := 1
  place : Nat := base

def Decoder.put? (d : Decoder) : Option Decoder :=
  let count := d.out.length + 1
  let spot := d.spot + d.step
  let code := d.code + spot / count
  if code.isValidChar then
    some {
      out := d.out.take (spot % count) ++ Char.ofNat code :: d.out.drop (spot % count)
      code, spot := spot % count + 1
      bias := adapt d.step count d.isFirst, isFirst := false }
  else none

def Decoder.read? (d : Decoder) (c : Char) : Option Decoder := do
  let n ← valueOf? c
  let t := threshold d.place d.bias
  let d := { d with step := d.step + n * d.weight }
  if n < t then d.put?
  else some { d with weight := d.weight * (base - t), place := d.place + base }

def splitLast (label : List Char) : List Char × List Char :=
  let back := label.reverse
  match back.dropWhile (· != '-') with
  | [] => ([], label)
  | _ :: front => (front.reverse, (back.takeWhile (· != '-')).reverse)

def decode? (label : List Char) : Option (List Char) := do
  let (basic, steps) := splitLast label
  if !basic.all isAscii then none
  let d ← steps.foldlM Decoder.read? { out := basic }
  if d.place = base then some d.out else none

end Decoding

end ContractLint.Punycode
