import ContractLint.Json.Record
import ContractLint.Registry.Basic

namespace ContractLint

open Json

def Severity.variants : List (String × Severity) :=
  Severity.all.map fun s => (s.name, s)

def Category.variants : List (String × Category) :=
  Category.all.map fun c => (c.name, c)

namespace Rule

structure Draft where
  tag : Option String := none
  severity : Option Severity := none
  category : Option Category := none

def Draft.finish (d : Draft) : Except String Rule :=
  match d.tag, d.severity, d.category with
  | some tag, some severity, some category => .ok ⟨tag, severity, category⟩
  | none, _, _ => .error "tag"
  | _, none, _ => .error "severity"
  | _, _, none => .error "category"

def record : Record Draft Rule where
  title := "struct RuleDescriptor"
  sized := "struct RuleDescriptor with 3 elements"
  fields := [
    ⟨"tag", [], String, (·.tag), fun d s => { d with tag := some s }, fun _ => readText⟩,
    ⟨"severity", [], Severity, (·.severity), fun d s => { d with severity := some s },
      readVariant Severity.variants⟩,
    ⟨"category", [], Category, (·.category), fun d c => { d with category := some c },
      readVariant Category.variants⟩]
  blank := {}
  finish := Draft.finish

end Rule

def Severity.readList (text : String) : Except ReadError (List Severity) :=
  readWhole (readSequence (readVariant Severity.variants) maxNesting) text

def Registry.readRules (text : String) : Except ReadError (List Rule) :=
  readWhole (readSequence Rule.record.read maxNesting) text

end ContractLint
