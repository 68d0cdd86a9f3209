import ContractLint.Finding.Basic
import ContractLint.Registry.Basic

namespace ContractLint

structure Span where
  startLine : Int64
  startColumn : Int64
  endLine : Int64
  endColumn : Int64
  deriving DecidableEq, Repr

def Span.ofFinding (f : Finding) : Span where
  startLine := f.startLine - 1
  startColumn := f.startColumn - 1
  endLine := f.endLine - 1
  endColumn := f.endColumn - 1

structure Diagnostic where
  span : Span
  message : String
  severity : Severity
  tag : String
  deriving DecidableEq, Repr

namespace Diagnostic

def source : String :=
  "secbit"

def messageOf (tag description : String) : String :=
  "[" ++ source ++ ":" ++ tag ++ "] " ++ description

def ofFinding (registry : Registry) (f : Finding) : Diagnostic where
  span := .ofFinding f
  message := messageOf f.tag f.description
  severity := registry.severityOf f.tag
  tag := f.tag

def normalize (registry : Registry) (fs : List Finding) : List Diagnostic :=
  fs.map (ofFinding registry)

structure Place where
  line : UInt32
  character : UInt32
  deriving DecidableEq, Repr

structure Published where
  first : Place
  last : Place
  severity : Severity
  code : String
  source : String
  message : String
  deriving DecidableEq, Repr

def clamp (n : Int64) : UInt32 :=
  UInt32.ofNat (min n.toInt.toNat 0xFFFFFFFF)

def publish (d : Diagnostic) : Published where
  first := ⟨clamp d.span.startLine, clamp d.span.startColumn⟩
  last := ⟨clamp d.span.endLine, clamp d.span.endColumn⟩
  severity := d.severity
  code := d.tag
  source := source
  message := d.message

def published (registry : Registry) (fs : List Finding) : List Published :=
  (normalize registry fs).map publish

structure Stats where
  total : Nat := 0
  errors : Nat := 0
  warnings : Nat := 0
  infos : Nat := 0
  deriving DecidableEq, Repr

namespace Stats

def add (s : Stats) (d : Diagnostic) : Stats :=
  let s := { s with total := s.total + 1 }
  match d.severity with
  | .error => { s with errors := s.errors + 1 }
  | .warning => { s with warnings := s.warnings + 1 }
  | .information => { s with infos := s.infos + 1 }

def ofList (ds : List Diagnostic) : Stats :=
  ds.foldl add {}

def highest? (s : Stats) : Option Severity :=
  if 0 < s.errors then some .error
  else if 0 < s.warnings then some .warning
  else if 0 < s.infos then some .information
  else none

end Stats

end Diagnostic

end ContractLint
