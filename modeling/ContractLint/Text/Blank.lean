namespace ContractLint.Text

abbrev Ranges := List (Nat × Nat)

def Ranges.has (rs : Ranges) (n : Nat) : Bool :=
  rs.any fun r => r.1 ≤ n && n ≤ r.2

def blankRanges : Ranges :=
  [(0x09, 0x0D), (0x20, 0x20), (0x85, 0x85), (0xA0, 0xA0), (0x1680, 0x1680), (0x2000, 0x200A),
    (0x2028, 0x2029), (0x202F, 0x202F), (0x205F, 0x205F), (0x3000, 0x3000)]

def isBlank (c : Char) : Bool :=
  blankRanges.has c.toNat

def trimStart (s : List Char) : List Char :=
  s.dropWhile isBlank

def trimEnd (s : List Char) : List Char :=
  (s.reverse.dropWhile isBlank).reverse

def trim (s : List Char) : List Char :=
  trimEnd (trimStart s)

def trimmed (s : String) : String :=
  String.ofList (trim s.toList)

end ContractLint.Text
