import ContractLint.Registry.Builtin

namespace ContractLint.Registry

variable {registry : Registry} {tag : String}

def tags (registry : Registry) : List String :=
  registry.rules.map Rule.tag

theorem contains_iff : registry.contains tag = true ↔ tag ∈ registry.tags := by
  rw [contains, Std.TreeMap.contains_iff_mem, registry.indexes.mem_iff, tags]

structure Plain (tag : String) : Prop where
  nonempty : tag ≠ ""
  comma : ',' ∉ tag.toList
  dash : tag.toList.head? ≠ some '-'

end ContractLint.Registry
