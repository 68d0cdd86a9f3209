import ContractLint.Location.Url

namespace ContractLint

structure Workspace where
  folders : Option (List Url) := none
  rootUri : Option Url := none
  rootPath : Option String := none
  deriving DecidableEq, Repr, Inhabited

namespace Workspace

def root? (w : Workspace) : Option Path :=
  ((w.folders.bind List.head?).bind Url.filePath?)
    <|> (w.rootUri.bind Url.filePath?)
    <|> (w.rootPath.map Path.ofText)

def resolve (root : Option Path) (p : Path) : Path :=
  if p.isAbsolute then p
  else
    match root with
    | some r => r.join p
    | none => p

end Workspace

end ContractLint
