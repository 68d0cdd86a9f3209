import Std.Data.TreeMap.Lemmas

namespace ContractLint.Registry

abbrev Index := Std.TreeMap String Nat

def Index.enter (index : Index) (position : Nat) : List String → Except String Index
  | [] => .ok index
  | tag :: rest =>
      if tag ∈ index then .error tag
      else enter (index.insert tag position) (position + 1) rest

def Index.collect (tags : List String) : Index :=
  .ofList tags.zipIdx

def Indexes (index : Index) (tags : List String) : Prop :=
  ∀ (tag : String) (position : Nat), index[tag]? = some position ↔ tags[position]? = some tag

variable {index index' : Index} {tags rest : List String} {tag : String} {position : Nat}

theorem indexes_empty : Indexes ∅ [] := by
  simp [Indexes]

theorem getElem?_concat_eq_some_iff {t : String} :
    (tags ++ [tag])[position]? = some t ↔
      tags[position]? = some t ∨ position = tags.length ∧ t = tag := by
  grind

namespace Indexes

theorem mem_iff (h : Indexes index tags) : tag ∈ index ↔ tag ∈ tags := by
  rw [Std.TreeMap.mem_iff_isSome_getElem?, Option.isSome_iff_exists, List.mem_iff_getElem?]
  exact exists_congr fun position => h tag position

theorem position_lt (h : Indexes index tags) (ht : index[tag]? = some position) :
    position < tags.length :=
  (List.getElem?_eq_some_iff.1 ((h tag position).1 ht)).1

theorem nodup (h : Indexes index tags) : tags.Nodup := by
  rw [List.nodup_iff_pairwise_ne, List.pairwise_iff_getElem]
  intro i j hi hj hij he
  have ht : index[tags[i]]? = some i := (h _ _).2 (List.getElem?_eq_getElem hi)
  have ht' : index[tags[j]]? = some j := (h _ _).2 (List.getElem?_eq_getElem hj)
  rw [← he, ht, Option.some.injEq] at ht'
  omega

theorem concat (h : Indexes index tags) (hn : tag ∉ index) :
    Indexes (index.insert tag tags.length) (tags ++ [tag]) := by
  intro t position
  rw [Std.TreeMap.getElem?_insert, getElem?_concat_eq_some_iff]
  by_cases he : tag = t
  · subst he
    have hm : tags[position]? ≠ some tag := fun hp => hn (h.mem_iff.2 (List.mem_of_getElem? hp))
    simp [hm, eq_comm]
  · have hc : compare tag t ≠ .eq := fun hc => he (Std.LawfulEqCmp.eq_of_compare hc)
    simp [hc, h t position, Ne.symm he]

theorem enter (h : Indexes index tags) (he : index.enter tags.length rest = .ok index') :
    Indexes index' (tags ++ rest) := by
  induction rest generalizing index tags with
  | nil =>
      cases he
      simpa using h
  | cons tag rest ih =>
      simp only [Index.enter] at he
      split at he
      · cases he
      · next hn =>
          rw [List.append_cons]
          exact ih (h.concat hn) (by simpa using he)

end Indexes

theorem enter_of_distinct (hd : tags.Nodup) (hn : ∀ tag ∈ tags, tag ∉ index) :
    index.enter position tags = .ok (index.insertMany (tags.zipIdx position)) := by
  induction tags generalizing index position with
  | nil => simp [Index.enter]
  | cons tag tags ih =>
      obtain ⟨ht, hd⟩ := List.nodup_cons.1 hd
      obtain ⟨hi, hn⟩ := List.forall_mem_cons.1 hn
      have hr : ∀ t ∈ tags, t ∉ index.insert tag position := by
        intro t hm hi
        rcases Std.TreeMap.mem_insert.1 hi with he | hi
        · exact ht (by rwa [Std.LawfulEqCmp.eq_of_compare he])
        · exact hn t hm hi
      rw [Index.enter, if_neg hi, ih hd hr, List.zipIdx_cons, Std.TreeMap.insertMany_cons]

theorem enter_eq_collect (hd : tags.Nodup) : Index.enter ∅ 0 tags = .ok (Index.collect tags) := by
  rw [enter_of_distinct hd (by simp), Index.collect, Std.TreeMap.ofList_eq_insertMany_empty]

theorem indexes_collect (hd : tags.Nodup) : Indexes (Index.collect tags) tags :=
  indexes_empty.enter (enter_eq_collect hd)

end ContractLint.Registry
