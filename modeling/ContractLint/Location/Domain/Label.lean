import ContractLint.Location.Domain.Mapping
import ContractLint.Location.Domain.Punycode
import ContractLint.Text.Combining
import ContractLint.Text.Direction
import ContractLint.Text.Joining
import ContractLint.Text.Normal

namespace ContractLint.Domain

open Text

structure Label where
  shown : List Char
  ascii : List Char
  deriving DecidableEq, Repr, Inhabited

namespace Label

section Joiners

def joiner : Char := '\u200d'

def nonJoiner : Char := '\u200c'

def joinsOn (j : Joining) : Bool :=
  j = .left || j = .dual

def joinsBack (j : Joining) : Bool :=
  j = .right || j = .dual

def nextJoining (cs : List Char) : Joining :=
  ((cs.map joining).find? (· != .transparent)).getD .apart

/-- Joiners stand behind a sign that silences a vowel; one that parts letters also stands between
letters that would join. `before` is reversed. -/
def joinersFit (before : List Char) : List Char → Bool
  | [] => true
  | c :: cs =>
      let afterVirama := before.head?.any fun b => combiningClass b = viramaClass
      let parting := joinsOn (nextJoining before) && joinsBack (nextJoining cs)
      (c != joiner || afterVirama) && (c != nonJoiner || afterVirama || parting)
        && joinersFit (c :: before) cs

end Joiners

def isWellFormed (label : List Char) : Bool :=
  label.head?.all (fun c => !isMark c) && joinersFit [] label

def encodedStart : List Char :=
  ['x', 'n', '-', '-']

def longestEncoded : Nat := 2000

def longestShown : Nat := 1000

/-- A label that is written in ASCII although it is not all ASCII: it must be written the one way
in which it would be. -/
def decoded? (code : List Char) : Option (List Char) := do
  if longestEncoded < code.length then none
  let label ← Punycode.decode? code
  if !label.all Punycode.isAscii && label.all isPlain && normal label = label then some label
  else none

def ofMapped? (label : List Char) : Option Label :=
  if encodedStart.isPrefixOf label then do
    let shown ← decoded? (label.drop encodedStart.length)
    if isWellFormed shown then some { shown, ascii := label } else none
  else if label.all Punycode.isAscii then some { shown := label, ascii := label }
  else if label.length ≤ longestShown && isWellFormed label then
    some { shown := label, ascii := encodedStart ++ Punycode.encode label }
  else none

section Directions

def turns (d : Direction) : Bool :=
  d = .right || d = .arabicNumber

def isBidirectional (label : Label) : Bool :=
  label.shown.any fun c => turns (direction c)

def lastDirection (ds : List Direction) : Direction :=
  ((ds.reverse).find? (· != .mark)).getD .neutral

def keepsDirection (label : Label) : Bool :=
  let ds := label.shown.map direction
  match ds with
  | [] => true
  | .left :: _ => !ds.any turns && (lastDirection ds = .left || lastDirection ds = .number)
  | .right :: _ =>
      !ds.contains .left && !(ds.contains .number && ds.contains .arabicNumber)
        && lastDirection ds != .neutral
  | _ => false

end Directions

end Label

end ContractLint.Domain
