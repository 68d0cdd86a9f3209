import ContractLint.Text.Combining
import ContractLint.Text.Composite

namespace ContractLint.Text

def takeApart (c : Char) : List Char :=
  match Composite.parts? c with
  | some (first, second) =>
      if first.toNat < c.toNat then takeApart first ++ [second] else [c]
  | none => [c]
termination_by c.toNat

def settle (c : Char) : List Char → List Char
  | [] => [c]
  | d :: ds =>
      if combiningClass c != 0 && combiningClass c < combiningClass d then d :: settle c ds
      else c :: d :: ds

def inOrder (cs : List Char) : List Char :=
  (cs.foldl (fun done c => settle c done) []).reverse

structure Cluster where
  base : Char
  marks : List Char := []
  deriving DecidableEq, Repr, Inhabited

def Cluster.text (k : Cluster) : List Char :=
  k.base :: k.marks

def Cluster.reaches (k : Cluster) (c : Char) : Bool :=
  k.marks.getLast?.all fun d => combiningClass d < combiningClass c

def Cluster.take? (k : Cluster) (c : Char) : Option Cluster :=
  if k.reaches c then (Composite.whole? k.base c).map ({ k with base := · }) else none

def composeFrom (k : Cluster) : List Char → List Char
  | [] => k.text
  | c :: cs =>
      match k.take? c with
      | some k => composeFrom k cs
      | none =>
          if combiningClass c = 0 then k.text ++ composeFrom ⟨c, []⟩ cs
          else composeFrom { k with marks := k.marks ++ [c] } cs

def compose : List Char → List Char
  | [] => []
  | c :: cs => if combiningClass c = 0 then composeFrom ⟨c, []⟩ cs else c :: compose cs

def normal (cs : List Char) : List Char :=
  compose (inOrder (cs.flatMap takeApart))

end ContractLint.Text
