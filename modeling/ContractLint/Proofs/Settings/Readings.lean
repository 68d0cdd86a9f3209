import ContractLint.Json.Shape
import ContractLint.Settings
import Mathlib.Data.List.Forall2

namespace ContractLint.Settings

open Json (Shape)

variable {s : Settings} {v w : Json} {items : List Json}

section Fields

def pathValue : Option String → Json
  | some path => .str path
  | none => .null

def tagsValue (tags : List String) : Json :=
  .arr (tags.map .str)

theorem path?_eq_some_iff (w : Json) (path : Option String) :
    path? w = some path ↔ w = pathValue path := by
  cases w <;> cases path <;> simp [path?, pathValue]

theorem texts?_eq_some_iff {tags : List String} :
    texts? items = some tags ↔ items = tags.map .str := by
  induction items generalizing tags with
  | nil => cases tags <;> simp [texts?]
  | cons w items ih =>
      cases w with
      | str text =>
          cases tags with
          | nil => simp [texts?]
          | cons tag tags =>
              simp only [texts?, Option.map_eq_some_iff, ih, List.map_cons, List.cons.injEq,
                Json.str.injEq]
              grind
      | null | bool | int | float | arr | obj => cases tags <;> simp [texts?]

theorem tags?_eq_some_iff (w : Json) (tags : List String) :
    tags? w = some tags ↔ w = tagsValue tags := by
  cases w with
  | arr items => simp [tags?, tagsValue, texts?_eq_some_iff]
  | null | bool | int | float | str | obj => simp [tags?, tagsValue]

theorem bool?_eq_some_iff (w : Json) (b : Bool) : w.bool? = some b ↔ w = .bool b := by
  cases w <;> simp [Json.bool?]

end Fields

section Merging

theorem update_of_isObject (h : (part v).isObject = true) (s : Settings) :
    ∃ s', s.update v = .ok s' := by
  simp only [update, h, if_true]
  exact ⟨_, rfl⟩

theorem update_of_not_isObject (h : (part v).isObject = false) (s : Settings) :
    s.update v = .error (.notSettings (part v).compact) := by
  simp only [update, h, Bool.false_eq_true, if_false]

theorem merged_of_field {α : Type} {key : String} {read : Json → Option α} {default a : α}
    (h : field v key read default = some a) : merged v key read default = a := by
  simp only [field] at h
  simp only [merged]
  cases hw : v.get? key with
  | none =>
      rw [hw] at h
      exact Option.some.inj h
  | some w =>
      rw [hw] at h
      have hr : read w = some a := h
      rw [Option.bind_some, hr, Option.getD_some]

theorem update_of_ofObject? (hp : (part v).isObject = true) (h : ofObject? (part v) = some s) :
    update {} v = .ok s := by
  simp only [ofObject?, Option.bind_eq_bind, Option.bind_eq_some_iff] at h
  obtain ⟨solc, hs, enables, he, noSmt, hn, asErc20, ha, onSave, ho, h⟩ := h
  cases h
  simp only [update, hp, if_true, merged_of_field hs, merged_of_field he, merged_of_field hn,
    merged_of_field ha, merged_of_field ho]

theorem ofJson_eq_update (h : ∀ items, part v ≠ .arr items) : ofJson v = update {} v := by
  cases hs : strict? (part v) with
  | none => simp only [ofJson, hs]
  | some s =>
      simp only [ofJson, hs]
      cases hp : part v with
      | arr items => exact absurd hp (h items)
      | obj members =>
          have ho : (part v).isObject = true := by rw [hp]; rfl
          have hr : ofObject? (part v) = some s := by
            rw [hp] at hs ⊢
            exact hs
          exact (update_of_ofObject? ho hr).symm
      | null | bool | int | float | str =>
          rw [hp] at hs
          cases hs

end Merging

section Positions

def values (s : Settings) : List Json :=
  [pathValue s.solc, tagsValue s.enables, .bool s.noSmt, .bool s.asErc20, .bool s.onSave]

def shapes : List Shape :=
  [.optional .text, .list .text, .bool, .bool, .bool]

theorem item_iff {α : Type} {read : Json → Option α} {write : α → Json}
    (hw : ∀ w a, read w = some a ↔ w = write a) (items defaults values : List Json)
    (default a : α) :
    items ++ (write default :: defaults).drop items.length = write a :: values ↔
      ∃ rest, item items read default = some (a, rest) ∧
        rest ++ defaults.drop rest.length = values := by
  cases items with
  | nil =>
      have hi : write default = write a ↔ default = a := by
        rw [← hw, (hw _ default).2 rfl, Option.some.injEq]
      simp [item, hi]
  | cons w rest => simp [item, hw]

theorem ofItems?_eq_some_iff :
    ofItems? items = some s ↔ items ++ ({} : Settings).values.drop items.length = s.values := by
  simp only [values, item_iff path?_eq_some_iff, item_iff tags?_eq_some_iff,
    item_iff bool?_eq_some_iff]
  simp only [ofItems?, Option.bind_eq_bind, Option.bind_eq_some_iff, Prod.exists]
  constructor
  · rintro ⟨solc, after₁, hs, enables, after₂, he, noSmt, after₃, hn, asErc20, after₄, ha, onSave,
      after₅, ho, h⟩
    cases after₅ with
    | cons => cases h
    | nil =>
        cases h
        exact ⟨after₁, hs, after₂, he, after₃, hn, after₄, ha, [], ho, rfl⟩
  · rintro ⟨after₁, hs, after₂, he, after₃, hn, after₄, ha, after₅, ho, h⟩
    have hr : after₅ = [] := by simpa using h
    subst hr
    exact ⟨_, after₁, hs, _, after₂, he, _, after₃, hn, _, after₄, ha, _, [], ho, rfl⟩

section Fitting

variable {α β : Type} {R : α → β → Prop}

theorem forall₂_fill {ds : List α} {shapes : List β} (hd : List.Forall₂ R ds shapes)
    (ws : List α) :
    List.Forall₂ R (ws ++ ds.drop ws.length) shapes ↔
      ws.length ≤ shapes.length ∧ ∀ p ∈ ws.zip shapes, R p.1 p.2 := by
  induction hd generalizing ws with
  | nil => cases ws <;> simp
  | @cons d shape ds shapes h hd ih =>
      cases ws with
      | nil => simp [h, hd]
      | cons w ws =>
          simp only [List.cons_append, List.length_cons, List.drop_succ_cons, List.forall₂_cons,
            ih, List.zip_cons_cons, List.mem_cons, forall_eq_or_imp, Nat.add_le_add_iff_right]
          tauto

theorem admits_path : (Shape.optional .text).admits w = true ↔ ∃ path, w = pathValue path := by
  cases w with
  | null => exact iff_of_true rfl ⟨none, rfl⟩
  | str text => exact iff_of_true rfl ⟨some text, rfl⟩
  | bool | int | float | arr | obj =>
      refine iff_of_false Bool.false_ne_true ?_
      rintro ⟨path, h⟩
      cases path <;> cases h

theorem admits_text : Shape.text.admits w = true ↔ ∃ text, w = .str text := by
  cases w with
  | str text => exact iff_of_true rfl ⟨text, rfl⟩
  | null | bool | int | float | arr | obj => exact iff_of_false Bool.false_ne_true (by simp)

theorem exists_tags (h : ∀ w ∈ items, ∃ text, w = .str text) :
    ∃ tags : List String, items = tags.map .str := by
  induction items with
  | nil => exact ⟨[], rfl⟩
  | cons w items ih =>
      obtain ⟨⟨text, rfl⟩, hs⟩ := List.forall_mem_cons.1 h
      obtain ⟨tags, rfl⟩ := ih hs
      exact ⟨text :: tags, rfl⟩

theorem admits_tags : (Shape.list .text).admits w = true ↔ ∃ tags, w = tagsValue tags := by
  cases w with
  | arr items =>
      have ha : (Shape.list .text).admits (.arr items) = items.all Shape.text.admits := by
        simp [Shape.admits, Json.items?]
      rw [ha]
      simp only [tagsValue, Json.arr.injEq, List.all_eq_true, admits_text]
      constructor
      · exact exists_tags
      · rintro ⟨tags, rfl⟩
        simp
  | null | bool | int | float | str | obj =>
      exact iff_of_false Bool.false_ne_true (by simp [tagsValue])

theorem admits_flag : Shape.bool.admits w = true ↔ ∃ b, w = .bool b := by
  cases w with
  | bool b => exact iff_of_true rfl ⟨b, rfl⟩
  | null | int | float | str | arr | obj => exact iff_of_false Bool.false_ne_true (by simp)

theorem forall₂_shapes_iff {ws : List Json} :
    List.Forall₂ (fun w shape => shape.admits w = true) ws shapes ↔
      ∃ s : Settings, ws = s.values := by
  constructor
  · intro h
    simp only [shapes, List.forall₂_cons_right_iff, List.forall₂_nil_right_iff] at h
    obtain ⟨_, _, hs, ⟨_, _, he, ⟨_, _, hn, ⟨_, _, ha, ⟨_, _, ho, rfl, rfl⟩, rfl⟩, rfl⟩, rfl⟩,
      rfl⟩ := h
    obtain ⟨solc, rfl⟩ := admits_path.1 hs
    obtain ⟨enables, rfl⟩ := admits_tags.1 he
    obtain ⟨noSmt, rfl⟩ := admits_flag.1 hn
    obtain ⟨asErc20, rfl⟩ := admits_flag.1 ha
    obtain ⟨onSave, rfl⟩ := admits_flag.1 ho
    exact ⟨⟨solc, enables, noSmt, asErc20, onSave⟩, rfl⟩
  · rintro ⟨s, rfl⟩
    exact .cons (admits_path.2 ⟨_, rfl⟩) (.cons (admits_tags.2 ⟨_, rfl⟩)
      (.cons (admits_flag.2 ⟨_, rfl⟩) (.cons (admits_flag.2 ⟨_, rfl⟩)
        (.cons (admits_flag.2 ⟨_, rfl⟩) .nil))))

theorem ofItems?_isSome_iff :
    (∃ s, ofItems? items = some s) ↔
      items.length ≤ shapes.length ∧ ∀ p ∈ items.zip shapes, p.2.admits p.1 = true := by
  have hd : List.Forall₂ (fun w shape => shape.admits w = true) ({} : Settings).values shapes :=
    forall₂_shapes_iff.2 ⟨_, rfl⟩
  simp only [ofItems?_eq_some_iff, ← forall₂_shapes_iff]
  exact forall₂_fill hd items

end Fitting

end Positions

theorem ofJson_eq_ok_iff_of_items (h : part v = .arr items) :
    ofJson v = .ok s ↔ ofItems? items = some s := by
  have ho : (part v).isObject = false := by rw [h]; rfl
  have hs : strict? (part v) = ofItems? items := by rw [h]; rfl
  simp only [ofJson, hs]
  cases ofItems? items with
  | none => simp [update_of_not_isObject ho]
  | some s' => simp

end ContractLint.Settings
