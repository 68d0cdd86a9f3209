import ContractLint.Diagnostic
import Mathlib.Order.Bounds.Basic

namespace ContractLint

namespace Severity

theorem rank_injective : Function.Injective rank := by
  intro s t h
  cases s <;> cases t <;> simp_all [rank]

instance : LinearOrder Severity where
  le_refl s := Nat.le_refl s.rank
  le_trans _ _ _ := Nat.le_trans
  le_antisymm _ _ h h' := rank_injective (Nat.le_antisymm h h')
  le_total s t := Nat.le_total s.rank t.rank
  toDecidableLE := inferInstance
  toDecidableEq := inferInstance

theorem mem_all (s : Severity) : s ∈ all := by
  cases s <;> decide

theorem ascending_all : all.Pairwise (· < ·) := by
  decide

theorem around_of_all {before after : List Severity} {s : Severity}
    (h : all = before ++ s :: after) : (∀ t ∈ before, t < s) ∧ ∀ t ∈ after, s < t := by
  have ho := ascending_all
  rw [h, List.pairwise_append, List.pairwise_cons] at ho
  exact ⟨fun t ht => ho.2.2 t ht s List.mem_cons_self, ho.2.1.1⟩

theorem find?_all_eq_some_iff {p : Severity → Bool} {s : Severity} :
    all.find? p = some s ↔ IsLeast {t | p t = true} s := by
  rw [List.find?_eq_some_iff_append]
  constructor
  · rintro ⟨hs, before, after, ha, hb⟩
    refine ⟨hs, fun t ht => ?_⟩
    have hm : t ∈ before ∨ t = s ∨ t ∈ after := by
      simpa [ha] using mem_all t
    rcases hm with hm | rfl | hm
    · exact absurd ht (by simpa using hb t hm)
    · exact le_rfl
    · exact ((around_of_all ha).2 t hm).le
  · rintro ⟨hs, hl⟩
    obtain ⟨before, after, ha⟩ := List.append_of_mem (mem_all s)
    refine ⟨hs, before, after, ha, fun t hm => ?_⟩
    have hn : ¬ p t = true := fun ht => absurd (hl ht) ((around_of_all ha).1 t hm).not_ge
    simpa using hn

end Severity

namespace Diagnostic.Stats

variable {stats : Stats} {s : Severity} {ss ts : List Severity}

def count (stats : Stats) : Severity → Nat
  | .error => stats.errors
  | .warning => stats.warnings
  | .information => stats.infos

section Severities

attribute [ext] Stats

instance : Add Stats where
  add a b :=
    ⟨a.total + b.total, a.errors + b.errors, a.warnings + b.warnings, a.infos + b.infos⟩

@[simp]
theorem total_add (a b : Stats) : (a + b).total = a.total + b.total :=
  rfl

@[simp]
theorem errors_add (a b : Stats) : (a + b).errors = a.errors + b.errors :=
  rfl

@[simp]
theorem warnings_add (a b : Stats) : (a + b).warnings = a.warnings + b.warnings :=
  rfl

@[simp]
theorem infos_add (a b : Stats) : (a + b).infos = a.infos + b.infos :=
  rfl

protected theorem add_assoc (a b c : Stats) : a + b + c = a + (b + c) := by
  ext <;> simp [Nat.add_assoc]

def ofSeverities (ss : List Severity) : Stats where
  total := ss.length
  errors := ss.count .error
  warnings := ss.count .warning
  infos := ss.count .information

theorem count_ofSeverities (ss : List Severity) (s : Severity) :
    (ofSeverities ss).count s = ss.count s := by
  cases s <;> rfl

theorem ofSeverities_append (ss ts : List Severity) :
    ofSeverities (ss ++ ts) = ofSeverities ss + ofSeverities ts := by
  ext <;> simp [ofSeverities]

theorem ofSeverities_eq_iff : ofSeverities ss = ofSeverities ts ↔ ss.Perm ts := by
  constructor
  · intro h
    refine List.perm_iff_count.2 fun s => ?_
    rw [← count_ofSeverities, h, count_ofSeverities]
  · intro h
    simp only [ofSeverities, h.length_eq, h.count_eq]

theorem total_ofSeverities (ss : List Severity) :
    (ofSeverities ss).total =
      (ofSeverities ss).errors + (ofSeverities ss).warnings + (ofSeverities ss).infos := by
  induction ss with
  | nil => rfl
  | cons s ss ih =>
      have hs : (ofSeverities [s]).total =
          (ofSeverities [s]).errors + (ofSeverities [s]).warnings + (ofSeverities [s]).infos := by
        cases s <;> rfl
      rw [← List.singleton_append, ofSeverities_append]
      simp only [total_add, errors_add, warnings_add, infos_add]
      omega

end Severities

section Counting

variable {ds es : List Diagnostic}

theorem add_eq (stats : Stats) (d : Diagnostic) :
    stats.add d = stats + ofSeverities [d.severity] := by
  rw [add]
  cases d.severity <;> rfl

theorem foldl_add (stats : Stats) (ds : List Diagnostic) :
    ds.foldl add stats = stats + ofSeverities (ds.map severity) := by
  induction ds generalizing stats with
  | nil => rfl
  | cons d ds ih =>
      rw [List.foldl_cons, ih, add_eq, Stats.add_assoc, ← ofSeverities_append, List.map_cons,
        List.singleton_append]

theorem ofList_eq (ds : List Diagnostic) : ofList ds = ofSeverities (ds.map severity) := by
  rw [ofList, foldl_add]
  ext <;> simp

theorem ofList_append (ds es : List Diagnostic) : ofList (ds ++ es) = ofList ds + ofList es := by
  simp only [ofList_eq, List.map_append, ofSeverities_append]

theorem ofList_eq_iff : ofList ds = ofList es ↔ (ds.map severity).Perm (es.map severity) := by
  rw [ofList_eq, ofList_eq, ofSeverities_eq_iff]

theorem count_ofList (ds : List Diagnostic) (s : Severity) :
    (ofList ds).count s = ds.countP (·.severity = s) := by
  rw [ofList_eq, count_ofSeverities, List.count_eq_countP, List.countP_map]
  rfl

theorem count_ofList_pos_iff : 0 < (ofList ds).count s ↔ ∃ d ∈ ds, d.severity = s := by
  rw [ofList_eq, count_ofSeverities, List.count_pos_iff, List.mem_map]

end Counting

section Highest

variable {ds : List Diagnostic}

theorem highest?_eq_find? (stats : Stats) :
    stats.highest? = Severity.all.find? fun s => 0 < stats.count s := by
  simp only [highest?, Severity.all, List.find?_cons, List.find?_nil, count]
  split_ifs <;> simp [*]

theorem highest?_eq_some_iff : stats.highest? = some s ↔ IsLeast {t | 0 < stats.count t} s := by
  rw [highest?_eq_find?, Severity.find?_all_eq_some_iff]
  simp only [decide_eq_true_eq]

theorem highest?_eq_none_iff : stats.highest? = none ↔ ∀ s, ¬ 0 < stats.count s := by
  rw [highest?_eq_find?, List.find?_eq_none]
  simp only [Severity.mem_all, forall_const, decide_eq_true_eq]

theorem highest?_ofList_eq_some_iff :
    (ofList ds).highest? = some s ↔ IsLeast {t | ∃ d ∈ ds, d.severity = t} s := by
  simp only [highest?_eq_some_iff, count_ofList_pos_iff]

theorem highest?_ofList_eq_none_iff : (ofList ds).highest? = none ↔ ds = [] := by
  simp only [highest?_eq_none_iff, count_ofList_pos_iff]
  constructor
  · intro h
    exact List.eq_nil_iff_forall_not_mem.2 fun d hd => h d.severity ⟨d, hd, rfl⟩
  · rintro rfl s ⟨d, hd, -⟩
    cases hd

end Highest

theorem statistics_count_severities (ds : List Diagnostic) :
    (ofList ds).total = ds.length ∧
      (ofList ds).total = (ofList ds).errors + (ofList ds).warnings + (ofList ds).infos ∧
      (∀ s, (ofList ds).count s = ds.countP fun d => d.severity = s) ∧
      (∀ es, ofList (ds ++ es) = ofList ds + ofList es) ∧
      (∀ es, ds.Perm es → ofList es = ofList ds) ∧
      Severity.error < .warning ∧ Severity.warning < .information ∧
      (∀ s, (ofList ds).highest? = some s ↔ IsLeast {t | ∃ d ∈ ds, d.severity = t} s) ∧
      ((ofList ds).highest? = none ↔ ds = []) := by
  refine ⟨?_, ?_, count_ofList ds, ofList_append ds, ?_, by decide, by decide,
    fun s => highest?_ofList_eq_some_iff, highest?_ofList_eq_none_iff⟩
  · rw [ofList_eq, ofSeverities, List.length_map]
  · rw [ofList_eq, total_ofSeverities]
  · intro es h
    exact ofList_eq_iff.2 (h.symm.map severity)

theorem moved_warning_is_counted_alike :
    let note : Diagnostic := ⟨⟨0, 0, 0, 4⟩, "[secbit:throw] ", .information, "throw"⟩
    let warning : Diagnostic := ⟨⟨2, 1, 2, 6⟩, "[secbit:int-div] ", .warning, "int-div"⟩
    [note, warning, note].Perm [warning, note, note] ∧
      ofList [warning, note, note] = ofList [note, warning, note] ∧
      ofList [note, warning, note] = ⟨3, 0, 1, 2⟩ ∧
      (ofList [warning, note, note]).highest? = some .warning := by
  intro note warning
  have hp : [note, warning, note].Perm [warning, note, note] := .swap warning note [note]
  obtain ⟨-, -, -, -, hs, -⟩ := statistics_count_severities [note, warning, note]
  exact ⟨hp, hs _ hp, by decide, by decide⟩

end Diagnostic.Stats

end ContractLint
