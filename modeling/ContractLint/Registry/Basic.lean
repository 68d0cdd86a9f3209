import ContractLint.Registry.Index

namespace ContractLint

inductive Severity where
  | error
  | warning
  | information
  deriving DecidableEq, Repr, Inhabited

namespace Severity

/-- Most urgent first. -/
def rank : Severity → Nat
  | .error => 0
  | .warning => 1
  | .information => 2

instance : LE Severity := ⟨fun a b => a.rank ≤ b.rank⟩

instance : DecidableLE Severity := fun a b => inferInstanceAs (Decidable (a.rank ≤ b.rank))

def all : List Severity :=
  [.error, .warning, .information]

def name : Severity → String
  | .error => "error"
  | .warning => "warning"
  | .information => "information"

def label : Severity → String
  | .error => "Error"
  | .warning => "Warning"
  | .information => "Information"

def code (s : Severity) : Nat :=
  s.rank + 1

def sort (ss : List Severity) : List Severity :=
  ss.mergeSort (· ≤ ·)

end Severity

inductive Category where
  | erc20
  | code
  | gas
  | vulnerability
  deriving DecidableEq, Repr, Inhabited

namespace Category

def all : List Category :=
  [.erc20, .code, .gas, .vulnerability]

def name : Category → String
  | .erc20 => "erc20"
  | .code => "code"
  | .gas => "gas"
  | .vulnerability => "vulnerability"

end Category

structure Rule where
  tag : String
  severity : Severity
  category : Category
  deriving DecidableEq, Repr

structure Registry where
  rules : List Rule
  index : Registry.Index
  indexes : Registry.Indexes index (rules.map Rule.tag)

namespace Registry

inductive Refusal where
  | repeatedTag (tag : String)
  deriving DecidableEq, Repr

def Refusal.message : Refusal → String
  | .repeatedTag tag => "Duplicate rule tag in registry: " ++ tag

def ofRules (rules : List Rule) : Except Refusal Registry :=
  match h : Index.enter ∅ 0 (rules.map Rule.tag) with
  | .ok index => .ok ⟨rules, index, indexes_empty.enter h⟩
  | .error tag => .error (.repeatedTag tag)

variable (registry : Registry)

theorem distinct : (registry.rules.map Rule.tag).Nodup :=
  registry.indexes.nodup

variable {registry} in
theorem position_lt {tag : String} {position : Nat} (h : registry.index[tag]? = some position) :
    position < registry.rules.length := by
  simpa using registry.indexes.position_lt h

def lookup (tag : String) : Option Rule :=
  match h : registry.index[tag]? with
  | some position => some (registry.rules.get ⟨position, position_lt h⟩)
  | none => none

def contains (tag : String) : Bool :=
  registry.index.contains tag

def size : Nat :=
  registry.rules.length

def isEmpty : Bool :=
  registry.rules.isEmpty

def severityOf (tag : String) : Severity :=
  match registry.lookup tag with
  | some r => r.severity
  | none => .information

structure Selection where
  accepted : List String
  unknown : List String
  deriving DecidableEq, Repr

def select (tags : List String) : Selection where
  accepted := tags.filter registry.contains
  unknown := tags.filter fun t => !registry.contains t

end Registry

def Rule.listing (r : Rule) : List String :=
  ["* " ++ r.tag, "**" ++ r.category.name ++ "**", "**" ++ r.severity.label ++ "**", ""]

def Registry.listing (registry : Registry) : String :=
  String.join ((registry.rules.flatMap Rule.listing).map (· ++ "\n"))

end ContractLint
