import ContractLint.Finding.Report
import ContractLint.Proofs.Json.Fields

namespace ContractLint

open Json

variable {n : Nat} {v : Json} {text : String}

namespace Coordinate

def Shown (v : Json) (c : Int64) : Prop :=
  Coordinate.ofJson v = .ok c

theorem read_eq_ok {t rest : List Char} {c : Int64} :
    Coordinate.read n t = .ok (c, rest) ↔ ∃ v, readValue n t = .ok (v, rest) ∧ Shown v c := by
  constructor
  · intro h
    obtain ⟨⟨v, u⟩, hv, h⟩ := bind_eq_ok.1 h
    dsimp only at h
    split at h
    · next hc =>
        cases h
        exact ⟨v, hv, hc⟩
    · cases h
  · rintro ⟨v, hv, hc⟩
    refine bind_eq_ok.2 ⟨_, hv, ?_⟩
    rw [Shown] at hc
    simp only [hc]
    rfl

theorem skips_read (nesting : Nat) : Skips (Coordinate.read nesting) := by
  intro t c rest h
  obtain ⟨v, hv, -⟩ := read_eq_ok.1 h
  exact skips_readValue nesting hv

theorem decodes_read : Decodes Coordinate.read Shown := by
  intro n t v rest h c q
  rw [read_eq_ok]
  constructor
  · rintro ⟨w, hw, hc⟩
    cases h.symm.trans hw
    exact ⟨hc, rfl⟩
  · rintro ⟨hc, rfl⟩
    exact ⟨v, h, hc⟩

end Coordinate

def Once (ms : List (String × Json)) (names : List String) (accepted : Json → Prop) : Prop :=
  ∃ v, valuesNamed names ms = [v] ∧ accepted v

namespace Finding

def Written : Json → Finding → Prop
  | .obj ms, f =>
      Once ms ["tag"] (· = .str f.tag) ∧
      Once ms ["desc", "description"] (· = .str f.description) ∧
      Once ms ["startline", "startLine"] (Coordinate.Shown · f.startLine) ∧
      Once ms ["startcolumn", "startColumn"] (Coordinate.Shown · f.startColumn) ∧
      Once ms ["endline", "endLine"] (Coordinate.Shown · f.endLine) ∧
      Once ms ["endcolumn", "endColumn"] (Coordinate.Shown · f.endColumn)
  | .arr vs, f =>
      ∃ sl sc el ec, vs = [.str f.tag, .str f.description, sl, sc, el, ec] ∧
        Coordinate.Shown sl f.startLine ∧ Coordinate.Shown sc f.startColumn ∧
        Coordinate.Shown el f.endLine ∧ Coordinate.Shown ec f.endColumn
  | _, _ => False

def Draft.of (f : Finding) : Draft :=
  ⟨some f.tag, some f.description, some f.startLine, some f.startColumn, some f.endLine,
    some f.endColumn⟩

theorem required_eq_ok {α : Type} {name : String} {o : Option α} {a : α} :
    required name o = .ok a ↔ o = some a := by
  cases o <;> simp [required]

theorem finish_eq_ok {d : Draft} {f : Finding} : d.finish = .ok f ↔ d = .of f := by
  constructor
  · intro h
    obtain ⟨tag, ht, h⟩ := bind_eq_ok.1 h
    obtain ⟨description, hd, h⟩ := bind_eq_ok.1 h
    obtain ⟨sl, hsl, h⟩ := bind_eq_ok.1 h
    obtain ⟨sc, hsc, h⟩ := bind_eq_ok.1 h
    obtain ⟨el, hel, h⟩ := bind_eq_ok.1 h
    obtain ⟨ec, hec, h⟩ := bind_eq_ok.1 h
    cases h
    rw [required_eq_ok] at ht hd hsl hsc hel hec
    cases d
    simp_all [Draft.of]
  · rintro rfl
    rfl

def slots : List (Slot Draft) := [
  ⟨tagField, fun v s => v = .str s, fun _ => skips_readText, decodes_readText, fun _ _ => rfl⟩,
  ⟨descriptionField, fun v s => v = .str s, fun _ => skips_readText, decodes_readText,
    fun _ _ => rfl⟩,
  ⟨startLineField, Coordinate.Shown, Coordinate.skips_read, Coordinate.decodes_read,
    fun _ _ => rfl⟩,
  ⟨startColumnField, Coordinate.Shown, Coordinate.skips_read, Coordinate.decodes_read,
    fun _ _ => rfl⟩,
  ⟨endLineField, Coordinate.Shown, Coordinate.skips_read, Coordinate.decodes_read,
    fun _ _ => rfl⟩,
  ⟨endColumnField, Coordinate.Shown, Coordinate.skips_read, Coordinate.decodes_read,
    fun _ _ => rfl⟩]

theorem fields_eq : record.fields = slots.map (·.field) :=
  rfl

theorem layout_slots : Layout slots where
  apart := by
    simp only [slots, List.pairwise_cons, List.mem_cons, List.not_mem_nil, or_false,
      forall_eq_or_imp, forall_eq, false_imp_iff, implies_true, List.Pairwise.nil, and_true]
    refine ⟨⟨?_, ?_, ?_, ?_, ?_⟩, ⟨?_, ?_, ?_, ?_⟩, ⟨?_, ?_, ?_⟩, ⟨?_, ?_⟩, ?_⟩ <;>
      exact ⟨by decide, fun _ _ => rfl, fun _ _ => rfl⟩
  complete := by
    intro d d' h
    simp only [slots, List.mem_cons, List.not_mem_nil, or_false, forall_eq_or_imp, forall_eq] at h
    obtain ⟨h₁, h₂, h₃, h₄, h₅, h₆⟩ := h
    exact Draft.ext h₁ h₂ h₃ h₄ h₅ h₆

theorem gathers_slots {ms : List (String × Json)} {f : Finding} :
    Gathers slots record.blank ms (.of f) ↔ Written (.obj ms) f := by
  rw [gathers_iff layout_slots]
  simp only [slots, List.mem_cons, List.not_mem_nil, or_false, forall_eq_or_imp, forall_eq]
  exact and_congr taken_none_some (and_congr taken_none_some (and_congr taken_none_some
    (and_congr taken_none_some (and_congr taken_none_some taken_none_some))))

theorem fills_slots {vs : List Json} {f : Finding} :
    Fills slots record.blank vs (.of f) ↔ Written (.arr vs) f := by
  simp only [slots, fills_cons, fills_nil]
  constructor
  · rintro ⟨_, _, tag, rfl, rfl, _, _, description, rfl, rfl, sl, _, l, rfl, hl, sc, _, c, rfl, hc,
      el, _, l', rfl, hl', ec, _, c', rfl, hc', rfl, h⟩
    cases h
    exact ⟨sl, sc, el, ec, rfl, hl, hc, hl', hc'⟩
  · rintro ⟨sl, sc, el, ec, rfl, hl, hc, hl', hc'⟩
    exact ⟨_, _, _, rfl, rfl, _, _, _, rfl, rfl, _, _, _, rfl, hl, _, _, _, rfl, hc, _, _, _, rfl, hl',
      _, _, _, rfl, hc', rfl, rfl⟩

theorem accepts_iff {v : Json} {f : Finding} : Accepts record slots v f ↔ Written v f := by
  cases v with
  | obj ms => exact (accepts_obj fun _ => finish_eq_ok).trans gathers_slots
  | arr vs => exact (accepts_arr fun _ => finish_eq_ok).trans fills_slots
  | null | bool | int | float | str => exact ⟨fun h => (nomatch h), False.elim⟩

theorem skips_read (nesting : Nat) : Skips (record.read nesting) :=
  Record.skips_read (skips_fields fields_eq) nesting

theorem decodes_read : Decodes record.read Written := by
  intro n t v rest h f q
  rw [Json.decodes_read fields_eq h, accepts_iff]

end Finding

namespace Report

def Lists (v : Json) (fs : List Finding) : Prop :=
  ∃ vs, v = .arr vs ∧ List.Forall₂ Finding.Written vs fs

def Holds (kind : Report) : Json → List Finding → Prop
  | .obj ms, fs => Once ms [kind.key] (Lists · fs)
  | .arr vs, fs => ∃ v, vs = [v] ∧ Lists v fs
  | _, _ => False

variable (kind : Report)

def slots : List (Slot (Option (List Finding))) :=
  [⟨kind.findingsField, Lists, skips_readSequence Finding.skips_read,
    decodes_readSequence Finding.skips_read Finding.decodes_read, fun _ _ => rfl⟩]

theorem fields_eq : kind.record.fields = kind.slots.map (·.field) :=
  rfl

theorem layout_slots : Layout kind.slots where
  apart := List.pairwise_singleton _ _
  complete := fun _ _ h => h _ (List.mem_singleton_self _)

theorem gathers_slots {ms : List (String × Json)} {fs : List Finding} :
    Gathers kind.slots none ms (some fs) ↔ kind.Holds (.obj ms) fs := by
  rw [gathers_iff kind.layout_slots]
  simp only [slots, List.mem_singleton, forall_eq]
  exact taken_none_some

theorem fills_slots {vs : List Json} {fs : List Finding} :
    Fills kind.slots none vs (some fs) ↔ kind.Holds (.arr vs) fs := by
  simp only [slots, fills_cons, fills_nil]
  constructor
  · rintro ⟨v, _, fs', rfl, hl, rfl, h⟩
    cases h
    exact ⟨v, rfl, hl⟩
  · rintro ⟨v, rfl, hl⟩
    exact ⟨v, [], fs, rfl, hl, rfl, rfl⟩

theorem accepts_iff {v : Json} {fs : List Finding} :
    Accepts kind.record kind.slots v fs ↔ kind.Holds v fs := by
  cases v with
  | obj ms => exact (accepts_obj fun _ => Finding.required_eq_ok).trans kind.gathers_slots
  | arr vs => exact (accepts_arr fun _ => Finding.required_eq_ok).trans kind.fills_slots
  | null | bool | int | float | str => exact ⟨fun h => (nomatch h), False.elim⟩

theorem read_eq_ok_iff_holds {d : Json} (h : Json.read text = .ok d) (fs : List Finding) :
    kind.read text = .ok fs ↔ kind.Holds d fs := by
  obtain ⟨rest, hd, hr⟩ := readWhole_eq_ok.1 h
  have hk := Json.decodes_read kind.fields_eq hd
  rw [Report.read, readWhole_eq_ok]
  constructor
  · rintro ⟨rest', hf, -⟩
    exact kind.accepts_iff.1 ((hk fs rest').1 hf).1
  · intro hh
    exact ⟨rest, (hk fs rest).2 ⟨kind.accepts_iff.2 hh, rfl⟩, hr⟩

def mixedText : String :=
  "\x7b\"note\":null,\"secbit-warnings\":[\x7b\"endColumn\":1,\"tag\":\"a\",\"desc\":\"b\"," ++
  "\"startline\":\" 1 \",\"startColumn\":1,\"endline\":1,\"extra\":[]\x7d," ++
  "[\"c\",\"d\",1,1,\" 1 \",1]]\x7d"

def mixed : Json :=
  .obj [("note", .null), ("secbit-warnings", .arr [
    .obj [("endColumn", .int 1), ("tag", .str "a"), ("desc", .str "b"), ("startline", .str " 1 "),
      ("startColumn", .int 1), ("endline", .int 1), ("extra", .arr [])],
    .arr [.str "c", .str "d", .int 1, .int 1, .str " 1 ", .int 1]])]

def mixedFindings : List Finding :=
  [⟨"a", "b", 1, 1, 1, 1⟩, ⟨"c", "d", 1, 1, 1, 1⟩]

theorem holds_mixed : native.Holds mixed mixedFindings := by
  have hi : Coordinate.ofJson (.int 1) = .ok 1 := by cbv
  have ht : Coordinate.ofJson (.str " 1 ") = .ok 1 := by
    have h : Coordinate.ofText? " 1 " = some 1 := by decide
    simp only [Coordinate.ofJson, h]
  refine ⟨_, by rfl, _, rfl, .cons ?_ (.cons ?_ .nil)⟩
  · exact ⟨⟨_, by rfl, rfl⟩, ⟨_, by rfl, rfl⟩, ⟨_, by rfl, ht⟩, ⟨_, by rfl, hi⟩, ⟨_, by rfl, hi⟩,
      ⟨_, by rfl, hi⟩⟩
  · exact ⟨_, _, _, _, rfl, hi, hi, ht, hi⟩

theorem mixed_report_is_read :
    Json.read mixedText = .ok mixed ∧ native.read mixedText = .ok mixedFindings := by
  have hd : Json.read mixedText = .ok mixed := by cbv
  exact ⟨hd, (native.read_eq_ok_iff_holds hd mixedFindings).2 holds_mixed⟩

end Report

end ContractLint
