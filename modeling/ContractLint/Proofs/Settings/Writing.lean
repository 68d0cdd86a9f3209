import ContractLint.Proofs.Settings.Changes

namespace ContractLint.Settings

open Json (lastNamed)

variable {s : Settings} {v : Json} {members : List (String × Json)}

structure Gives (v : Json) (s : Settings) : Prop where
  reading : ofJson v = .ok s
  change : ∀ old : Settings, old.update v = .ok s

theorem admits_value (s : Settings) (k : Key) : k.shape.admits (s.value k) = true := by
  cases k with
  | solc => exact admits_path.2 ⟨s.solc, rfl⟩
  | enables => exact admits_tags.2 ⟨s.enables, rfl⟩
  | noSmt | asErc20 | onSave => exact admits_flag.2 ⟨_, rfl⟩

theorem gives_of_members (ho : (part v).isObject = true)
    (hm : ∀ k : Key, (part v).get? k.name = some (s.value k)) : Gives v s := by
  have hu : ∀ old : Settings, old.update v = .ok s := by
    intro old
    refine update_eq_ok_iff.2 ⟨ho, ?_⟩
    intro k
    rw [given_of_admits (hm k) (admits_value s k), Option.getD_some]
  refine ⟨?_, hu⟩
  rw [ofJson_eq_update, hu]
  intro items hp
  rw [hp] at ho
  cases ho

theorem part_of_section {w : Json} (h : lastNamed sectionName members = some w) :
    part (.obj members) = w := by
  rw [part, Json.get?, h, Option.getD_some]

theorem part_of_flat (h : lastNamed sectionName members = none) :
    part (.obj members) = .obj members := by
  rw [part, Json.get?, h, Option.getD_none]

theorem toJson_eq (s : Settings) :
    s.toJson = .obj (Key.all.map fun k => (k.name, s.value k)) := by
  obtain ⟨solc, enables, noSmt, asErc20, onSave⟩ := s
  cases solc <;> rfl

theorem get?_toJson (s : Settings) (k : Key) : s.toJson.get? k.name = some (s.value k) := by
  cases k <;> rfl

theorem get?_toJson_eq_none {name : String} (h : ∀ k : Key, k.name ≠ name) :
    s.toJson.get? name = none := by
  rw [toJson_eq]
  refine lastNamed_of_not_mem ?_
  simp [h]

theorem part_toJson (s : Settings) : part s.toJson = s.toJson := by
  rw [part, get?_toJson_eq_none Key.name_ne_sectionName, Option.getD_none]

theorem gives_of_part_eq_toJson (h : part v = s.toJson) : Gives v s := by
  refine gives_of_members (by rw [h]; rfl) ?_
  intro k
  rw [h, get?_toJson]

theorem settings_survive_writing (s : Settings) :
    (∀ k : Key, s.toJson.get? k.name = some (s.value k)) ∧
      (∀ name, (∀ k : Key, k.name ≠ name) → s.toJson.get? name = none) ∧
      Gives s.toJson s ∧
      Gives (.obj [("secbit", s.toJson)]) s ∧
      (∀ members, lastNamed "secbit" members = some s.toJson → Gives (.obj members) s) ∧
      ∀ members, (∀ k : Key, lastNamed k.name members = some (s.value k)) →
        (lastNamed "secbit" members = none → Gives (.obj members) s) ∧
          ∀ around, lastNamed "secbit" around = some (.obj members) → Gives (.obj around) s := by
  refine ⟨get?_toJson s, fun _ => get?_toJson_eq_none, gives_of_part_eq_toJson (part_toJson s),
    gives_of_part_eq_toJson (part_of_section rfl), ?_, ?_⟩
  · intro members hm
    exact gives_of_part_eq_toJson (part_of_section hm)
  · intro members hm
    constructor
    · intro hf
      have hp := part_of_flat hf
      exact gives_of_members (by rw [hp]; rfl) (by rw [hp]; exact hm)
    · intro around ha
      have hp := part_of_section ha
      exact gives_of_members (by rw [hp]; rfl) (by rw [hp]; exact hm)

example :
    update { solc := some "/solc", enables := ["throw"], onSave := true }
        (.obj [("onSave", .bool true), ("secbit", toJson { solc := some "", noSmt := true })]) =
      .ok { solc := some "", noSmt := true } := by
  rfl

end ContractLint.Settings
