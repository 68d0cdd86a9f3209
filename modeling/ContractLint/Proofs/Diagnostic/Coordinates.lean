import ContractLint.Proofs.Diagnostic.Recovery
import Mathlib.Data.Prod.Lex

namespace ContractLint

section Names

inductive Coordinate.Name where
  | startLine
  | startColumn
  | endLine
  | endColumn
  deriving DecidableEq, Repr

def Finding.coordinate (f : Finding) : Coordinate.Name → Int64
  | .startLine => f.startLine
  | .startColumn => f.startColumn
  | .endLine => f.endLine
  | .endColumn => f.endColumn

def Span.coordinate (s : Span) : Coordinate.Name → Int64
  | .startLine => s.startLine
  | .startColumn => s.startColumn
  | .endLine => s.endLine
  | .endColumn => s.endColumn

def Diagnostic.Published.coordinate (p : Diagnostic.Published) : Coordinate.Name → UInt32
  | .startLine => p.first.line
  | .startColumn => p.first.character
  | .endLine => p.last.line
  | .endColumn => p.last.character

theorem Diagnostic.coordinate_ofFinding (registry : Registry) (f : Finding)
    (name : Coordinate.Name) :
    (ofFinding registry f).span.coordinate name = f.coordinate name - 1 := by
  cases name <;> rfl

theorem Diagnostic.coordinate_publish (d : Diagnostic) (name : Coordinate.Name) :
    (publish d).coordinate name = clamp (d.span.coordinate name) := by
  cases name <;> rfl

end Names

section Shown

namespace Coordinate

open Diagnostic (clamp)

variable {c c' : Int64}

theorem clamp_le_clamp (h : c ≤ c') : clamp c ≤ clamp c' := by
  rw [Int64.le_iff_toInt_le] at h
  have hc := toNat_clamp c
  have hc' := toNat_clamp c'
  rw [UInt32.le_iff_toNat_le]
  omega

theorem sub_one_le_sub_one (hc : least < c.toInt) (h : c ≤ c') : c - 1 ≤ c' - 1 := by
  rw [Int64.le_iff_toInt_le] at h ⊢
  rw [toInt_sub_one hc, toInt_sub_one (Int.lt_of_lt_of_le hc h)]
  omega

theorem Fits.clamp_sub_one_lt_iff (h : Fits c) (h' : Fits c') :
    clamp (c - 1) < clamp (c' - 1) ↔ c < c' := by
  have hc := h.toNat_clamp_sub_one
  have hc' := h'.toNat_clamp_sub_one
  rw [UInt32.lt_iff_toNat_lt, Int64.lt_iff_toInt_lt]
  omega

theorem Fits.clamp_sub_one_le_iff (h : Fits c) (h' : Fits c') :
    clamp (c - 1) ≤ clamp (c' - 1) ↔ c ≤ c' := by
  have hc := h.toNat_clamp_sub_one
  have hc' := h'.toNat_clamp_sub_one
  rw [UInt32.le_iff_toNat_le, Int64.le_iff_toInt_le]
  omega

theorem Fits.clamp_sub_one_inj (h : Fits c) (h' : Fits c') :
    clamp (c - 1) = clamp (c' - 1) ↔ c = c' := by
  constructor
  · intro he
    rw [← shownAs_clamp h, he, shownAs_clamp h']
  · rintro rfl
    rfl

end Coordinate

end Shown

section Order

def Finding.first (f : Finding) : Int64 ×ₗ Int64 :=
  toLex (f.startLine, f.startColumn)

def Finding.last (f : Finding) : Int64 ×ₗ Int64 :=
  toLex (f.endLine, f.endColumn)

def Diagnostic.Place.ordered (p : Diagnostic.Place) : UInt32 ×ₗ UInt32 :=
  toLex (p.line, p.character)

namespace Diagnostic

variable {registry : Registry} {f : Finding}

theorem first_publish_le_iff (h : f.Fits) :
    (publish (ofFinding registry f)).first.ordered ≤ (publish (ofFinding registry f)).last.ordered ↔
      f.first ≤ f.last := by
  simp only [Place.ordered, Finding.first, Finding.last, Prod.Lex.toLex_le_toLex]
  exact or_congr (h.startLine.clamp_sub_one_lt_iff h.endLine)
    (and_congr (h.startLine.clamp_sub_one_inj h.endLine)
      (h.startColumn.clamp_sub_one_le_iff h.endColumn))

theorem first_publish_eq_iff (h : f.Fits) :
    (publish (ofFinding registry f)).first = (publish (ofFinding registry f)).last ↔
      f.first = f.last := by
  simp only [Finding.first, Finding.last, toLex_inj, Prod.mk.injEq]
  exact (Place.mk.injEq ..).to_iff.trans (and_congr (h.startLine.clamp_sub_one_inj h.endLine)
    (h.startColumn.clamp_sub_one_inj h.endColumn))

end Diagnostic

end Order

namespace Diagnostic

theorem coordinates_reach_wire (registry : Registry) (fs : List Finding) :
    (∀ (i : Nat) f, fs[i]? = some f →
      let d := ofFinding registry f
      let p := publish d
      (normalize registry fs)[i]? = some d ∧ (published registry fs)[i]? = some p ∧
        (∀ name, Coordinate.least < (f.coordinate name).toInt →
          (d.span.coordinate name).toInt = (f.coordinate name).toInt - 1 ∧
            ((p.coordinate name).toNat : Int) =
              min (max ((f.coordinate name).toInt - 1) 0) 0xFFFFFFFF) ∧
        (f.Fits → f.first ≤ f.last →
          p.first.ordered ≤ p.last.ordered ∧ (p.first = p.last → f.first = f.last))) ∧
      ∀ (f g : Finding) (name : Coordinate.Name),
        Coordinate.least < (f.coordinate name).toInt → f.coordinate name ≤ g.coordinate name →
          let d := ofFinding registry f
          let e := ofFinding registry g
          d.span.coordinate name ≤ e.span.coordinate name ∧
            (publish d).coordinate name ≤ (publish e).coordinate name := by
  constructor
  · intro i f hi d p
    refine ⟨?_, ?_, ?_, ?_⟩
    · rw [normalize, List.getElem?_map, hi, Option.map_some]
    · rw [published_eq_map, List.getElem?_map, hi, Option.map_some]
    · intro name hn
      have hd : d.span.coordinate name = f.coordinate name - 1 := coordinate_ofFinding ..
      have hs : (d.span.coordinate name).toInt = (f.coordinate name).toInt - 1 := by
        rw [hd, Coordinate.toInt_sub_one hn]
      refine ⟨hs, ?_⟩
      rw [coordinate_publish, Coordinate.toNat_clamp, hs]
    · intro hf hl
      exact ⟨(first_publish_le_iff hf).2 hl, (first_publish_eq_iff hf).1⟩
  · intro f g name hn hle d e
    have hs : d.span.coordinate name ≤ e.span.coordinate name := by
      have hd : d.span.coordinate name = f.coordinate name - 1 := coordinate_ofFinding ..
      have he : e.span.coordinate name = g.coordinate name - 1 := coordinate_ofFinding ..
      rw [hd, he]
      exact Coordinate.sub_one_le_sub_one hn hle
    refine ⟨hs, ?_⟩
    rw [coordinate_publish, coordinate_publish]
    exact Coordinate.clamp_le_clamp hs

section Edges

def wholeFinding : Finding :=
  ⟨"sha3", "", 1, 7, 0x100000000, 2⟩

def edgeFinding : Finding :=
  ⟨"sha3", "", Int64.minValue + 1, 0, 0x100000001, Int64.maxValue⟩

theorem fits_wholeFinding : wholeFinding.Fits :=
  ⟨⟨by decide, by decide⟩, ⟨by decide, by decide⟩, ⟨by decide, by decide⟩,
    ⟨by decide, by decide⟩⟩

theorem edges_reach_wire :
    wholeFinding.Fits ∧ wholeFinding.first ≤ wholeFinding.last ∧
      (publish (ofFinding .builtin wholeFinding)).first.ordered ≤
        (publish (ofFinding .builtin wholeFinding)).last.ordered ∧
      Coordinate.least < edgeFinding.startLine.toInt ∧
      (ofFinding .builtin edgeFinding).span.startLine.toInt = Coordinate.least ∧
      (publish (ofFinding .builtin edgeFinding)).first.line ≤
        (publish (ofFinding .builtin wholeFinding)).first.line := by
  have hl : wholeFinding.first ≤ wholeFinding.last :=
    Prod.Lex.toLex_le_toLex.2 (.inl (by decide))
  have hw := (coordinates_reach_wire .builtin [wholeFinding]).1 0 _ rfl
  have he := (coordinates_reach_wire .builtin [edgeFinding]).1 0 _ rfl
  have hm := (coordinates_reach_wire .builtin []).2 edgeFinding wholeFinding .startLine
    (by decide) (by decide)
  refine ⟨fits_wholeFinding, hl, (hw.2.2.2 fits_wholeFinding hl).1, by decide, ?_, hm.2⟩
  exact (he.2.2.1 .startLine (by decide)).1.trans (by decide)

end Edges

example :
    let f : Finding := ⟨"sha3", "", 0x100000000, 7, 0x100000001, 2⟩
    let p := publish (ofFinding .builtin f)
    f.startLine < f.endLine ∧ p.first = ⟨0xFFFFFFFF, 6⟩ ∧ p.last = ⟨0xFFFFFFFF, 1⟩ := by
  decide +kernel

end Diagnostic

end ContractLint
