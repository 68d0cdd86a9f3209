import ContractLint.Diagnostic
import ContractLint.Proofs.Registry.Lookup

namespace ContractLint

section Rules

namespace Registry

inductive Rates (registry : Registry) (tag : String) : Severity → Prop where
  | ruled {rule : Rule} :
      rule ∈ registry.rules → rule.tag = tag →
        (∀ other ∈ registry.rules, other.tag = tag → other = rule) →
        Rates registry tag rule.severity
  | unruled : (∀ rule ∈ registry.rules, rule.tag ≠ tag) → Rates registry tag .information

theorem rates_severityOf (registry : Registry) (tag : String) :
    registry.Rates tag (registry.severityOf tag) := by
  simp only [severityOf]
  cases h : registry.lookup tag with
  | none => exact .unruled (lookup_eq_none_iff.1 h)
  | some rule =>
      obtain ⟨hr, rfl⟩ := lookup_eq_some_iff.1 h
      exact .ruled hr rfl fun other ho ht => eq_of_tag hr ho ht

end Registry

end Rules

section Coordinates

namespace Coordinate

variable {c : Int64}

theorem toInt_sub_one (h : least < c.toInt) : (c - 1).toInt = c.toInt - 1 := by
  have h1 : (1 : Int64).toInt = 1 := by decide
  have hu := c.toInt_lt
  rw [Int64.toInt_sub, h1]
  simp only [least] at h
  exact Int.bmod_eq_of_le (by omega) (by omega)

structure Fits (c : Int64) : Prop where
  lower : 1 ≤ c.toInt
  upper : c.toInt ≤ 0x100000000

theorem Fits.least_lt (h : Fits c) : least < c.toInt := by
  have hl := h.lower
  simp only [least]
  omega

theorem toNat_clamp (c : Int64) :
    ((Diagnostic.clamp c).toNat : Int) = min (max c.toInt 0) 0xFFFFFFFF := by
  rw [Diagnostic.clamp, UInt32.toNat_ofNat']
  omega

theorem Fits.toNat_clamp_sub_one (h : Fits c) :
    ((Diagnostic.clamp (c - 1)).toNat : Int) = c.toInt - 1 := by
  have hl := h.lower
  have hu := h.upper
  rw [toNat_clamp, toInt_sub_one h.least_lt]
  omega

def shownAs (n : UInt32) : Int64 :=
  .ofInt (n.toNat + 1)

theorem shownAs_clamp (h : Fits c) : shownAs (Diagnostic.clamp (c - 1)) = c := by
  rw [shownAs, h.toNat_clamp_sub_one, Int.sub_add_cancel, Int64.ofInt_toInt]

end Coordinate

structure Finding.Fits (f : Finding) : Prop where
  startLine : Coordinate.Fits f.startLine
  startColumn : Coordinate.Fits f.startColumn
  endLine : Coordinate.Fits f.endLine
  endColumn : Coordinate.Fits f.endColumn

end Coordinates

namespace Diagnostic

variable {registry : Registry} {f : Finding} {fs gs : List Finding}

def Published.description (p : Published) : String :=
  .ofList (p.message.toList.drop (messageOf p.code "").length)

def Published.finding (p : Published) : Finding where
  tag := p.code
  description := p.description
  startLine := Coordinate.shownAs p.first.line
  startColumn := Coordinate.shownAs p.first.character
  endLine := Coordinate.shownAs p.last.line
  endColumn := Coordinate.shownAs p.last.character

theorem description_publish (registry : Registry) (f : Finding) :
    (publish (ofFinding registry f)).description = f.description := by
  have hm : messageOf f.tag f.description = messageOf f.tag "" ++ f.description := by
    simp [messageOf]
  change String.ofList ((messageOf f.tag f.description).toList.drop (messageOf f.tag "").length) = _
  rw [hm, String.toList_append, List.drop_left' String.length_toList, String.ofList_toList]

theorem finding_publish (h : f.Fits) : (publish (ofFinding registry f)).finding = f := by
  simp only [Published.finding, description_publish]
  simp only [publish, ofFinding, Span.ofFinding, Coordinate.shownAs_clamp h.startLine,
    Coordinate.shownAs_clamp h.startColumn, Coordinate.shownAs_clamp h.endLine,
    Coordinate.shownAs_clamp h.endColumn]

theorem published_eq_map (registry : Registry) (fs : List Finding) :
    published registry fs = fs.map fun f => publish (ofFinding registry f) := by
  simp [published, normalize]

theorem map_finding_published (h : ∀ f ∈ fs, f.Fits) :
    (published registry fs).map Published.finding = fs := by
  rw [published_eq_map, List.map_map]
  have hf : ∀ f ∈ fs, (publish (ofFinding registry f)).finding = f :=
    fun f hm => finding_publish (h f hm)
  exact (List.map_congr_left hf).trans (List.map_id fs)

theorem diagnostics_tell_findings (registry : Registry) (fs : List Finding) :
    (published registry fs).length = fs.length ∧
      (∀ gs, published registry (fs ++ gs) = published registry fs ++ published registry gs) ∧
      (∀ (i : Nat) f, fs[i]? = some f → ∃ p,
        (published registry fs)[i]? = some p ∧ published registry [f] = [p] ∧
          p.code = f.tag ∧ p.source = "secbit" ∧
          p.message = "[secbit:" ++ f.tag ++ "] " ++ f.description ∧
          registry.Rates f.tag p.severity ∧
          (f.Fits → p.finding = f)) ∧
      ∀ (registry' : Registry) (gs : List Finding),
        (∀ f ∈ fs, f.Fits) → (∀ g ∈ gs, g.Fits) →
          published registry fs = published registry' gs → fs = gs := by
  refine ⟨?_, ?_, ?_, ?_⟩
  · rw [published_eq_map, List.length_map]
  · intro gs
    simp only [published_eq_map, List.map_append]
  · intro i f hi
    refine ⟨publish (ofFinding registry f), ?_, ?_, rfl, rfl, ?_, ?_, finding_publish⟩
    · rw [published_eq_map, List.getElem?_map, hi, Option.map_some]
    · rw [published_eq_map, List.map_singleton]
    · rfl
    · exact registry.rates_severityOf f.tag
  · intro registry' gs hf hg h
    rw [← map_finding_published hf, h, map_finding_published hg]

example :
    let f : Finding := ⟨"a] b", "[secbit:c] d", 1, 2, 0x100000000, 1⟩
    (publish (ofFinding ⟨[], ∅, Registry.indexes_empty⟩ f)).finding = f := by
  decide +kernel

end Diagnostic

end ContractLint
