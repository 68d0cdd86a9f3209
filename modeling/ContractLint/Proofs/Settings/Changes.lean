import ContractLint.Proofs.Settings.Readings
import ContractLint.Server.Basic

namespace ContractLint.Settings

open Json (Shape lastNamed)

variable {s s' : Settings} {a b v : Json}

section Keys

inductive Key where
  | solc
  | enables
  | noSmt
  | asErc20
  | onSave
  deriving DecidableEq, Repr

namespace Key

def all : List Key :=
  [.solc, .enables, .noSmt, .asErc20, .onSave]

def name : Key → String
  | .solc => "solc"
  | .enables => "enables"
  | .noSmt => "noSMT"
  | .asErc20 => "asERC20"
  | .onSave => "onSave"

def shape : Key → Shape
  | .solc => .optional .text
  | .enables => .list .text
  | .noSmt | .asErc20 | .onSave => .bool

theorem mem_all (k : Key) : k ∈ all := by
  cases k <;> decide

theorem nodup_all : all.Nodup := by decide

theorem name_injective {j k : Key} (h : j.name = k.name) : j = k := by
  cases j <;> cases k <;> first | rfl | exact absurd h (by decide)

theorem name_ne_sectionName (k : Key) : k.name ≠ sectionName := by
  cases k <;> decide

end Key

def value (s : Settings) : Key → Json
  | .solc => pathValue s.solc
  | .enables => tagsValue s.enables
  | .noSmt => .bool s.noSmt
  | .asErc20 => .bool s.asErc20
  | .onSave => .bool s.onSave

theorem eq_of_value (h : ∀ k, s.value k = s'.value k) : s = s' := by
  have hs := (path?_eq_some_iff _ s'.solc).2 (h .solc)
  have he := (tags?_eq_some_iff _ s'.enables).2 (h .enables)
  have hn := (bool?_eq_some_iff _ s'.noSmt).2 (h .noSmt)
  have ha := (bool?_eq_some_iff _ s'.asErc20).2 (h .asErc20)
  have ho := (bool?_eq_some_iff _ s'.onSave).2 (h .onSave)
  rw [value, (path?_eq_some_iff _ _).2 rfl] at hs
  rw [value, (tags?_eq_some_iff _ _).2 rfl] at he
  cases s
  cases s'
  cases hs
  cases he
  cases hn
  cases ha
  cases ho
  rfl

end Keys

section Members

def given (v : Json) (k : Key) : Option Json :=
  ((part v).get? k.name).filter k.shape.admits

theorem given_of_admits {k : Key} {w : Json} (hw : (part v).get? k.name = some w)
    (ha : k.shape.admits w = true) : given v k = some w := by
  rw [given, hw, Option.filter_some, if_pos ha]

theorem given_eq_none_iff {k : Key} :
    given v k = none ↔ ∀ w, (part v).get? k.name = some w → k.shape.admits w = false := by
  simp only [given, Option.filter_eq_none_iff, Bool.not_eq_true]

theorem admits_of_given {k : Key} {w : Json} (h : given v k = some w) :
    k.shape.admits w = true :=
  (Option.filter_eq_some_iff.1 h).2

theorem merged_eq {α : Type} {read : Json → Option α} {write : α → Json} {shape : Shape}
    (hr : ∀ w a, read w = some a ↔ w = write a)
    (hs : ∀ w, shape.admits w = true ↔ ∃ a, w = write a) (p : Json) (key : String) (old : α) :
    write (merged p key read old) = ((p.get? key).filter shape.admits).getD (write old) := by
  simp only [merged]
  cases p.get? key with
  | none => rfl
  | some w =>
      by_cases hw : shape.admits w = true
      · obtain ⟨a, rfl⟩ := (hs w).1 hw
        rw [Option.filter_some, if_pos hw, Option.bind_some, (hr _ a).2 rfl]
        rfl
      · have hn : read w = none := by
          rw [Option.eq_none_iff_forall_ne_some]
          intro a ha
          exact hw ((hs w).2 ⟨a, (hr w a).1 ha⟩)
        rw [Option.filter_some, if_neg hw, Option.bind_some, hn]
        rfl

theorem value_update (h : s.update v = .ok s') (k : Key) :
    s'.value k = (given v k).getD (s.value k) := by
  simp only [update] at h
  split at h
  · cases h
    cases k with
    | solc => exact merged_eq path?_eq_some_iff (fun _ => admits_path) _ _ _
    | enables => exact merged_eq tags?_eq_some_iff (fun _ => admits_tags) _ _ _
    | noSmt | asErc20 | onSave =>
        exact merged_eq bool?_eq_some_iff (fun _ => admits_flag) _ _ _
  · cases h

theorem update_eq_ok_iff :
    s.update v = .ok s' ↔
      (part v).isObject = true ∧ ∀ k, s'.value k = (given v k).getD (s.value k) := by
  constructor
  · intro h
    refine ⟨?_, value_update h⟩
    by_contra hp
    rw [update_of_not_isObject (Bool.eq_false_iff.2 hp)] at h
    cases h
  · rintro ⟨hp, hk⟩
    obtain ⟨t, ht⟩ := update_of_isObject hp s
    have he : t = s' := eq_of_value fun k => (value_update ht k).trans (hk k).symm
    exact ht.trans (congrArg _ he)

end Members

section Overriding

def overridden (a b : Json) : Json :=
  .obj (Key.all.filterMap fun k => ((given b k).or (given a k)).map (k.name, ·))

theorem lastNamed_filterMap (f : Key → Option Json) (k : Key) {ks : List Key} (hn : ks.Nodup) :
    lastNamed k.name (ks.filterMap fun j => (f j).map (j.name, ·)) =
      if k ∈ ks then f k else none := by
  induction ks with
  | nil => rfl
  | cons j js ih =>
      obtain ⟨hj, hd⟩ := List.nodup_cons.1 hn
      by_cases hk : k = j
      · subst hk
        cases hf : f k with
        | none => simp [hf, ih hd]
        | some w => simp [hf, lastNamed, ih hd, hj]
      · have hne : j.name ≠ k.name := fun h => hk (Key.name_injective h).symm
        cases hf : f j with
        | none => simp [hf, ih hd, hk]
        | some w =>
            simp only [List.filterMap_cons, hf, Option.map_some, lastNamed, ih hd, List.mem_cons,
              hk, false_or, if_neg hne]
            split
            · next h => rw [h]
            · next h => rw [h]

theorem lastNamed_of_not_mem {α : Type} {key : String} {members : List (String × α)}
    (h : key ∉ members.map Prod.fst) : lastNamed key members = none := by
  induction members with
  | nil => rfl
  | cons m ms ih =>
      rw [List.map_cons, List.mem_cons, not_or] at h
      simp only [lastNamed, ih h.2, if_neg (Ne.symm h.1)]

theorem part_overridden (a b : Json) : part (overridden a b) = overridden a b := by
  have hn : (overridden a b).get? sectionName = none := by
    refine lastNamed_of_not_mem ?_
    simp only [List.mem_map, List.mem_filterMap, not_exists, not_and]
    rintro m ⟨k, -, hm⟩ he
    obtain ⟨w, -, rfl⟩ := Option.map_eq_some_iff.1 hm
    exact k.name_ne_sectionName he
  rw [part, hn, Option.getD_none]

theorem given_overridden (a b : Json) (k : Key) :
    given (overridden a b) k = (given b k).or (given a k) := by
  have hg : (overridden a b).get? k.name = (given b k).or (given a k) :=
    (lastNamed_filterMap _ k Key.nodup_all).trans (if_pos k.mem_all)
  rw [given, part_overridden, hg]
  cases hb : given b k with
  | some w => exact Option.filter_eq_some_iff.2 ⟨rfl, admits_of_given hb⟩
  | none =>
      rw [Option.none_or]
      cases ha : given a k with
      | some w => exact Option.filter_eq_some_iff.2 ⟨rfl, admits_of_given ha⟩
      | none => rfl

theorem bind_update (ha : (part a).isObject = true) (hb : (part b).isObject = true)
    (s : Settings) :
    ∃ t, (s.update a).bind (·.update b) = .ok t ∧
      ∀ k, t.value k = ((given b k).or (given a k)).getD (s.value k) := by
  obtain ⟨r, hr⟩ := update_of_isObject ha s
  obtain ⟨t, ht⟩ := update_of_isObject hb r
  refine ⟨t, by rw [hr]; exact ht, ?_⟩
  intro k
  rw [value_update ht, value_update hr]
  cases given b k <;> rfl

end Overriding

section Laws

theorem update_congr (ha : (part a).isObject = true) (hb : (part b).isObject = true)
    (h : ∀ k, given a k = given b k) (s : Settings) : s.update a = s.update b := by
  obtain ⟨t, ht⟩ := update_of_isObject ha s
  rw [ht, eq_comm, update_eq_ok_iff]
  refine ⟨hb, ?_⟩
  intro k
  rw [value_update ht, h]

theorem update_twice (s : Settings) (v : Json) :
    (s.update v).bind (·.update v) = s.update v := by
  cases hv : (part v).isObject with
  | true =>
      obtain ⟨t, ht, hk⟩ := bind_update hv hv s
      rw [ht, eq_comm, update_eq_ok_iff]
      refine ⟨hv, ?_⟩
      intro k
      rw [hk, Option.or_self]
  | false =>
      rw [update_of_not_isObject hv]
      rfl

theorem update_comm (ha : (part a).isObject = true) (hb : (part b).isObject = true)
    (hd : ∀ k, given a k = none ∨ given b k = none) (s : Settings) :
    (s.update a).bind (·.update b) = (s.update b).bind (·.update a) := by
  obtain ⟨t, ht, hk⟩ := bind_update ha hb s
  obtain ⟨t', ht', hk'⟩ := bind_update hb ha s
  have he : t = t' := by
    refine eq_of_value ?_
    intro k
    rw [hk, hk']
    rcases hd k with h | h <;> rw [h, Option.or_none, Option.none_or]
  rw [ht, ht', he]

theorem update_both (ha : (part a).isObject = true) (hb : (part b).isObject = true) {c : Json}
    (hc : part c = overridden a b) (s : Settings) :
    (s.update a).bind (·.update b) = s.update c := by
  obtain ⟨t, ht, hk⟩ := bind_update ha hb s
  rw [ht, eq_comm, update_eq_ok_iff, hc]
  refine ⟨rfl, ?_⟩
  intro k
  have hg : given c k = given (overridden a b) k := by
    rw [given, given, hc, part_overridden]
  rw [hk, hg, given_overridden]

end Laws

theorem updates_override (s : Settings) :
    (∀ v, (∃ cause, s.update v = .error cause) ↔ (part v).isObject = false) ∧
      (∀ (server : Server) (v : Json), (part v).isObject = false →
        server.didChangeConfiguration v = server) ∧
      (∀ v s', s.update v = .ok s' → ∀ k : Key,
        (∀ w, (part v).get? k.name = some w → k.shape.admits w = true → s'.value k = w) ∧
          ((∀ w, (part v).get? k.name = some w → k.shape.admits w = false) →
            s'.value k = s.value k)) ∧
      (∀ v v', (part v).isObject = true → (part v').isObject = true →
        (∀ k : Key, (part v).get? k.name = (part v').get? k.name) → s.update v = s.update v') ∧
      (∀ v, (s.update v).bind (·.update v) = s.update v) ∧
      (∀ a b, (part a).isObject = true → (part b).isObject = true →
        (∀ k, given a k = none ∨ given b k = none) →
          (s.update a).bind (·.update b) = (s.update b).bind (·.update a)) ∧
      ∀ a b, (part a).isObject = true → (part b).isObject = true →
        (s.update a).bind (·.update b) = s.update (overridden a b) ∧
          ∀ members, lastNamed sectionName members = some (overridden a b) →
            (s.update a).bind (·.update b) = s.update (.obj members) := by
  refine ⟨?_, ?_, ?_, ?_, ?_, ?_, ?_⟩
  · intro v
    cases hv : (part v).isObject with
    | true =>
        obtain ⟨t, ht⟩ := update_of_isObject hv s
        simp [ht]
    | false => simp [update_of_not_isObject hv]
  · intro server v hv
    simp only [Server.didChangeConfiguration, update_of_not_isObject hv]
  · intro v s' h k
    constructor
    · intro w hw ha
      rw [value_update h, given_of_admits hw ha, Option.getD_some]
    · intro hw
      rw [value_update h, given_eq_none_iff.2 hw, Option.getD_none]
  · intro v v' hv hv' hk
    exact update_congr hv hv' (fun k => by rw [given, given, hk]) s
  · exact update_twice s
  · intro a b ha hb hd
    exact update_comm ha hb hd s
  · intro a b ha hb
    refine ⟨update_both ha hb (part_overridden a b) s, ?_⟩
    intro members hm
    refine update_both ha hb ?_ s
    simp only [part, Json.get?, hm, Option.getD_some]

example :
    update { enables := ["throw"] } (.obj [
      ("noSMT", .bool true),
      ("secbit", .obj [
        ("enables", .arr [.str "sha3", .int 1]), ("onSave", .bool true), ("solc", .int 0)])]) =
      .ok { enables := ["throw"], onSave := true } := by
  rfl

end ContractLint.Settings
