import ContractLint.Text.Utf8

namespace ContractLint.Percent

open Text

abbrev EncodeSet := UInt8 → Bool

def ofChars (cs : List Char) : EncodeSet :=
  fun b => cs.any fun c => c.toNat = b.toNat

def controls : EncodeSet :=
  fun b => b.toNat < 0x20 || 0x7E < b.toNat

def union (s t : EncodeSet) : EncodeSet :=
  fun b => s b || t b

def fragment : EncodeSet :=
  union controls (ofChars [' ', '"', '<', '>', '`'])

def query : EncodeSet :=
  union controls (ofChars [' ', '"', '#', '<', '>'])

def specialQuery : EncodeSet :=
  union query (ofChars ['\''])

def path : EncodeSet :=
  union fragment (ofChars ['#', '?', '\x7b', '\x7d'])

def segment : EncodeSet :=
  union path (ofChars ['/', '%', '\\'])

def userinfo : EncodeSet :=
  union path (ofChars ['/', ':', ';', '=', '@', '[', '\\', ']', '^', '|'])

def upperHex (n : Nat) : Char :=
  if n < 10 then Char.ofNat (48 + n) else Char.ofNat (55 + n)

def encodeByte (s : EncodeSet) (b : UInt8) : List Char :=
  if s b then ['%', upperHex (b.toNat / 16), upperHex (b.toNat % 16)] else [Char.ofNat b.toNat]

def encode (s : EncodeSet) (bytes : Bytes) : String :=
  String.ofList (bytes.flatMap (encodeByte s))

def encodeText (s : EncodeSet) (text : List Char) : String :=
  encode s (Bytes.ofString (String.ofList text))

def hexValue (b : UInt8) : Option Nat :=
  let n := b.toNat
  if 0x30 ≤ n && n ≤ 0x39 then some (n - 0x30)
  else if 0x41 ≤ n && n ≤ 0x46 then some (n - 0x41 + 10)
  else if 0x61 ≤ n && n ≤ 0x66 then some (n - 0x61 + 10)
  else none

def decode : Bytes → Bytes
  | 0x25 :: h :: l :: rest =>
      match hexValue h, hexValue l with
      | some h, some l => UInt8.ofNat (h * 16 + l) :: decode rest
      | _, _ => 0x25 :: decode (h :: l :: rest)
  | b :: rest => b :: decode rest
  | [] => []

end ContractLint.Percent
