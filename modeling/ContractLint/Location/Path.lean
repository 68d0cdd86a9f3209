import ContractLint.Text.Split
import ContractLint.Text.Utf8

namespace ContractLint

open Text

structure Path where
  bytes : Bytes
  deriving DecidableEq, Repr, Inhabited

namespace Path

def slash : UInt8 := 0x2F

def dot : UInt8 := 0x2E

def ofText (s : String) : Path :=
  ⟨Bytes.ofString s⟩

def shown (p : Path) : String :=
  Bytes.shown p.bytes

def isAbsolute (p : Path) : Bool :=
  p.bytes.head? == some slash

def isEmpty (p : Path) : Bool :=
  p.bytes.isEmpty

def joinWith (separator : UInt8) : List Bytes → Bytes
  | [] => []
  | [part] => part
  | part :: parts => part ++ separator :: joinWith separator parts

def segments (p : Path) : List Bytes :=
  partsAt slash p.bytes

def isIdle (segment : Bytes) : Bool :=
  segment == [] || segment == [dot]

def isUp (segment : Bytes) : Bool :=
  segment == [dot, dot]

def components (p : Path) : List Bytes :=
  p.segments.filter fun s => !isIdle s

def fileName? (p : Path) : Option Bytes :=
  match p.components.getLast? with
  | some name => if isUp name then none else some name
  | none => none

def extension? (p : Path) : Option Bytes := do
  let name ← p.fileName?
  let reversed := name.reverse
  match reversed.dropWhile (· != dot) with
  | _ :: _ :: _ => some (reversed.takeWhile (· != dot)).reverse
  | _ => none

def directory? (p : Path) : Option Path :=
  if p.isAbsolute then
    match p.segments.reverse.dropWhile isIdle with
    | [] => none
    | _ :: up =>
        match up.dropWhile isIdle with
        | [] => some ⟨[slash]⟩
        | kept => some ⟨joinWith slash kept.reverse⟩
  else none

def join (p q : Path) : Path :=
  if q.isAbsolute then q
  else if p.isEmpty || p.bytes.getLast? == some slash then ⟨p.bytes ++ q.bytes⟩
  else ⟨p.bytes ++ slash :: q.bytes⟩

def extend (p : Path) (suffix : String) : Path :=
  ⟨p.bytes ++ Bytes.ofString suffix⟩

end Path

end ContractLint
