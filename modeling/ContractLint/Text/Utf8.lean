namespace ContractLint.Text

abbrev Bytes := List UInt8

namespace Bytes

def ofString (s : String) : Bytes :=
  s.toByteArray.data.toList

def text? (b : Bytes) : Option String :=
  String.fromUTF8? ⟨b.toArray⟩

def lead (b : Nat) : Option (Nat × Nat × Nat) :=
  if 0xC2 ≤ b && b ≤ 0xDF then some (0x80, 0xBF, 2)
  else if b == 0xE0 then some (0xA0, 0xBF, 3)
  else if b == 0xED then some (0x80, 0x9F, 3)
  else if 0xE1 ≤ b && b ≤ 0xEF then some (0x80, 0xBF, 3)
  else if b == 0xF0 then some (0x90, 0xBF, 4)
  else if b == 0xF4 then some (0x80, 0x8F, 4)
  else if 0xF1 ≤ b && b ≤ 0xF3 then some (0x80, 0xBF, 4)
  else none

def replacement : Char := '\ufffd'

/-- State between bytes: none owed, or `owed` bytes owed, the next from `lo` to `hi`, on top of
`value`. A byte that cannot continue a sequence ends it as one replacement and is read afresh. -/
def showFrom : Nat → Nat → Nat → Nat → Bytes → List Char
  | 0, _, _, _, [] => []
  | _ + 1, _, _, _, [] => [replacement]
  | 0, _, _, _, b :: bs => fresh b.toNat bs
  | owed + 1, lo, hi, value, b :: bs =>
      let n := b.toNat
      if lo ≤ n && n ≤ hi then
        let value := value * 64 + n % 64
        match owed with
        | 0 => Char.ofNat value :: showFrom 0 0 0 0 bs
        | k + 1 => showFrom (k + 1) 0x80 0xBF value bs
      else
        replacement :: fresh n bs
where
  fresh (n : Nat) (bs : Bytes) : List Char :=
    if n < 0x80 then
      Char.ofNat n :: showFrom 0 0 0 0 bs
    else
      match lead n with
      | some (lo, hi, size) =>
          let first := if size = 2 then n % 32 else if size = 3 then n % 16 else n % 8
          showFrom (size - 1) lo hi first bs
      | none => replacement :: showFrom 0 0 0 0 bs

def shown (b : Bytes) : String :=
  String.ofList (showFrom 0 0 0 0 b)

end Bytes

end ContractLint.Text
