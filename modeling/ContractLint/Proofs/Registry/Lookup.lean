import ContractLint.Proofs.Registry.Tags
import Mathlib.Data.List.Nodup

namespace ContractLint.Registry

variable {registry : Registry} {rules : List Rule} {rule other : Rule} {tag : String}

section Finding

theorem eq_of_tag (hr : rule ∈ registry.rules) (ho : other ∈ registry.rules)
    (h : other.tag = rule.tag) : other = rule :=
  List.inj_on_of_nodup_map registry.distinct ho hr h

theorem lookup_eq_bind (registry : Registry) (tag : String) :
    registry.lookup tag = registry.index[tag]?.bind fun position => registry.rules[position]? := by
  simp only [lookup]
  split
  · next position hp => simp [hp]
  · next hn => simp [hn]

theorem lookup_eq_some_iff :
    registry.lookup tag = some rule ↔ rule ∈ registry.rules ∧ rule.tag = tag := by
  rw [lookup_eq_bind, Option.bind_eq_some_iff]
  constructor
  · rintro ⟨position, hi, hr⟩
    have ht := (registry.indexes tag position).1 hi
    rw [List.getElem?_map, hr] at ht
    exact ⟨List.mem_of_getElem? hr, Option.some.inj ht⟩
  · rintro ⟨hr, rfl⟩
    obtain ⟨position, hp⟩ := List.mem_iff_getElem?.1 hr
    refine ⟨position, (registry.indexes _ _).2 ?_, hp⟩
    rw [List.getElem?_map, hp, Option.map_some]

theorem lookup_eq_none_iff :
    registry.lookup tag = none ↔ ∀ rule ∈ registry.rules, rule.tag ≠ tag := by
  simp [Option.eq_none_iff_forall_ne_some, lookup_eq_some_iff]

theorem contains_eq_isSome_lookup (registry : Registry) (tag : String) :
    registry.contains tag = (registry.lookup tag).isSome := by
  rw [Bool.eq_iff_iff, contains_iff, Option.isSome_iff_exists]
  simp only [lookup_eq_some_iff, tags, List.mem_map]

theorem lookup_eq_find? (registry : Registry) (tag : String) :
    registry.lookup tag = registry.rules.find? fun rule => rule.tag = tag := by
  cases h : registry.lookup tag with
  | none =>
      rw [eq_comm, List.find?_eq_none]
      simpa using lookup_eq_none_iff.1 h
  | some rule =>
      obtain ⟨hr, rfl⟩ := lookup_eq_some_iff.1 h
      cases hf : registry.rules.find? fun other => other.tag = rule.tag with
      | none => simpa using List.find?_eq_none.1 hf rule hr
      | some found =>
          have ht : found.tag = rule.tag := by simpa using List.find?_some hf
          rw [eq_of_tag hr (List.mem_of_find?_eq_some hf) ht]

end Finding

section Building

variable {index : Index} {seen rest before : List String} {position : Nat}

theorem enter_append (index : Index) (position : Nat) (before rest : List String) :
    index.enter position (before ++ rest) =
      (index.enter position before).bind fun index' =>
        index'.enter (position + before.length) rest := by
  induction before generalizing index position with
  | nil => rfl
  | cons tag before ih =>
      simp only [List.cons_append, Index.enter]
      split
      · rfl
      · rw [ih, List.length_cons, Nat.add_assoc, Nat.add_comm 1]

theorem enter_eq_error_iff (h : Indexes index seen) :
    index.enter seen.length rest = .error tag ↔
      ∃ before after, rest = before ++ tag :: after ∧ (seen ++ before).Nodup ∧
        tag ∈ seen ++ before := by
  constructor
  · intro he
    induction rest generalizing index seen with
    | nil => cases he
    | cons first rest ih =>
        simp only [Index.enter] at he
        split at he
        · next hm =>
            cases he
            exact ⟨[], rest, rfl, by simpa using h.nodup, by simpa using h.mem_iff.1 hm⟩
        · next hm =>
            obtain ⟨before, after, rfl, hd, ht⟩ := ih (h.concat hm) (by simpa using he)
            exact ⟨first :: before, after, rfl, by simpa using hd, by simpa using ht⟩
  · rintro ⟨before, after, rfl, hd, ht⟩
    obtain ⟨-, hb, hn⟩ := List.nodup_append'.1 hd
    have he : index.enter seen.length before =
        .ok (index.insertMany (before.zipIdx seen.length)) :=
      enter_of_distinct hb fun t hm hi => hn (h.mem_iff.1 hi) hm
    rw [enter_append, he]
    exact if_pos ((h.enter he).mem_iff.2 ht)

def FirstRepeat (rules : List Rule) (rule : Rule) : Prop :=
  ∃ before after, rules = before ++ rule :: after ∧ (before.map Rule.tag).Nodup ∧
    rule.tag ∈ before.map Rule.tag

theorem enter_tags_eq_error_iff :
    Index.enter ∅ 0 (rules.map Rule.tag) = .error tag ↔
      ∃ rule, FirstRepeat rules rule ∧ rule.tag = tag := by
  have he : Index.enter ∅ 0 (rules.map Rule.tag) = .error tag ↔ _ :=
    enter_eq_error_iff indexes_empty
  simp only [he, List.nil_append]
  constructor
  · rintro ⟨tags, after, hs, hd, ht⟩
    obtain ⟨before, rest, rfl, rfl, hr⟩ := List.map_eq_append_iff.1 hs
    obtain ⟨rule, after, rfl, rfl, rfl⟩ := List.map_eq_cons_iff.1 hr
    exact ⟨rule, ⟨before, after, rfl, hd, ht⟩, rfl⟩
  · rintro ⟨rule, ⟨before, after, rfl, hd, ht⟩, rfl⟩
    exact ⟨_, after.map Rule.tag, by rw [List.map_append, List.map_cons], hd, ht⟩

theorem ofRules_eq_error_iff {refusal : Refusal} :
    ofRules rules = .error refusal ↔
      ∃ rule, FirstRepeat rules rule ∧ refusal = .repeatedTag rule.tag := by
  obtain ⟨tag⟩ := refusal
  have he : ofRules rules = .error (.repeatedTag tag) ↔
      Index.enter ∅ 0 (rules.map Rule.tag) = .error tag := by
    simp only [ofRules]
    split
    · next h => simp [h]
    · next h => simp [h]
  rw [he, enter_tags_eq_error_iff]
  simp only [Refusal.repeatedTag.injEq, eq_comm]

theorem ofRules_of_distinct (hd : (rules.map Rule.tag).Nodup) :
    ofRules rules =
      .ok ⟨rules, .collect (rules.map Rule.tag), indexes_collect hd⟩ := by
  have he := enter_eq_collect hd
  simp only [ofRules]
  split
  · next index h =>
      cases h.symm.trans he
      rfl
  · next h => cases h.symm.trans he

theorem rules_of_ofRules (h : ofRules rules = .ok registry) : registry.rules = rules := by
  simp only [ofRules] at h
  split at h
  · cases h
    rfl
  · cases h

theorem exists_ofRules_iff :
    (∃ registry, ofRules rules = .ok registry) ↔ (rules.map Rule.tag).Nodup := by
  constructor
  · rintro ⟨registry, h⟩
    rw [← rules_of_ofRules h]
    exact registry.distinct
  · intro hd
    exact ⟨_, ofRules_of_distinct hd⟩

end Building

theorem rules_are_found_by_tag (rules : List Rule) :
    ((∃ registry, ofRules rules = .ok registry) ↔ (rules.map Rule.tag).Nodup) ∧
      (∀ refusal, ofRules rules = .error refusal ↔
        ∃ rule, FirstRepeat rules rule ∧ refusal = .repeatedTag rule.tag) ∧
      (∀ registry, ofRules rules = .ok registry →
        registry.rules = rules ∧
          (∀ tag,
            registry.lookup tag = rules.find? (fun rule => rule.tag = tag) ∧
              (∀ rule, registry.lookup tag = some rule ↔ rule ∈ rules ∧ rule.tag = tag) ∧
              registry.contains tag = (registry.lookup tag).isSome) ∧
          ∀ rule ∈ registry.rules, registry.lookup rule.tag = some rule) ∧
      ofRules builtinRules = .ok builtin := by
  refine ⟨exists_ofRules_iff, fun _ => ofRules_eq_error_iff, ?_,
    ofRules_of_distinct builtinRules_distinct⟩
  intro registry h
  cases rules_of_ofRules h
  refine ⟨rfl, ?_, ?_⟩
  · intro tag
    exact ⟨registry.lookup_eq_find? tag, fun _ => lookup_eq_some_iff,
      registry.contains_eq_isSome_lookup tag⟩
  · intro rule hr
    exact lookup_eq_some_iff.2 ⟨hr, rfl⟩

example : ofRules [⟨"throw", .error, .code⟩, ⟨"sha3", .error, .code⟩, ⟨"sha3", .warning, .gas⟩,
    ⟨"throw", .warning, .gas⟩] = .error (.repeatedTag "sha3") := by
  rfl

end ContractLint.Registry
