import ContractLint.Proofs.Documents.History

namespace ContractLint.Documents

open Operation

variable {os before later : List Operation} {o : Operation} {u : Url}

section Touching

def Touches (before : List Operation) : Operation → Prop
  | .add .. | .markSaved .. => True
  | .change uri version content =>
      ∃ docs, (empty.after before).change uri version content = .ok docs
  | .close _ => False

theorem touches_change_iff {version : Int32} {content : String} :
    Touches before (.change u version content) ↔ Opened before u := by
  rw [← isSome_get?_after, Touches]
  cases hd : (empty.after before).get? u with
  | none => simp [change_of_closed hd]
  | some d => simp [change_of_open hd]

theorem lastActive_of_touches (h : Touches os o) :
    ((empty.after os).apply o).lastActive = some o.uri := by
  cases o with
  | add | markSaved => rfl
  | close => exact h.elim
  | change v version content =>
      have ho : Opened os v := touches_change_iff.1 h
      obtain ⟨d, hd⟩ := Option.isSome_iff_exists.1 ((isSome_get?_after os v).2 ho)
      simp only [apply, change_of_open hd]
      rfl

theorem lastActive_of_idle (h : ¬ Touches os o) :
    ((empty.after os).apply o).lastActive = some u ↔
      (empty.after os).lastActive = some u ∧ o ≠ .close u := by
  cases o with
  | add | markSaved => exact absurd trivial h
  | change v version content =>
      rw [touches_change_iff] at h
      rw [apply_change_of_closed (get?_after_eq_none_iff.2 h)]
      simp
  | close v =>
      simp only [apply, close]
      by_cases hv : (empty.after os).lastActive = some v
      · rw [if_pos hv, hv]
        simp
      · rw [if_neg hv]
        constructor
        · intro hu
          refine ⟨hu, ?_⟩
          rintro ⟨⟩
          exact hv hu
        · exact And.left

end Touching

section Active

def Active (os : List Operation) (u : Url) : Prop :=
  ∃ before o later, Last Touches os before o later ∧ o.uri = u ∧ .close u ∉ later

theorem active_concat_of_touches (h : Touches os o) : Active (os ++ [o]) u ↔ o.uri = u := by
  constructor
  · rintro ⟨before, p, later, hl, hu, -⟩
    rcases last_concat hl with ⟨-, rfl, -⟩ | ⟨hn, -⟩
    · exact hu
    · exact absurd h hn
  · intro hu
    exact ⟨os, o, [], last_self h, hu, List.not_mem_nil⟩

theorem active_concat_of_idle (h : ¬ Touches os o) :
    Active (os ++ [o]) u ↔ Active os u ∧ o ≠ .close u := by
  constructor
  · rintro ⟨before, p, later, hl, hu, hc⟩
    rcases last_concat hl with ⟨ht, -⟩ | ⟨-, rest, rfl, hr⟩
    · exact absurd ht h
    · obtain ⟨hc, ho⟩ := not_mem_concat.1 hc
      exact ⟨⟨before, p, rest, hr, hu, hc⟩, ho⟩
  · rintro ⟨⟨before, p, later, hl, hu, hc⟩, ho⟩
    exact ⟨before, p, later ++ [o], hl.concat h, hu, not_mem_concat.2 ⟨hc, ho⟩⟩

theorem lastActive_after (os : List Operation) (u : Url) :
    (empty.after os).lastActive = some u ↔ Active os u := by
  induction os using List.reverseRecOn with
  | nil =>
      refine iff_of_false (by simp [after, empty]) ?_
      rintro ⟨before, o, later, hl, -⟩
      have hs := hl.split
      simp at hs
  | append_singleton os o ih =>
      rw [after_concat]
      by_cases ht : Touches os o
      · rw [lastActive_of_touches ht, active_concat_of_touches ht, Option.some_inj]
      · rw [lastActive_of_idle ht, active_concat_of_idle ht, ih]

theorem lastActive_eq_none_iff :
    (empty.after os).lastActive = none ↔
      ∀ before o later, Last Touches os before o later → .close o.uri ∈ later := by
  rw [Option.eq_none_iff_forall_ne_some]
  constructor
  · intro h before o later hl
    by_contra hc
    exact h o.uri ((lastActive_after os o.uri).2 ⟨before, o, later, hl, rfl, hc⟩)
  · intro h u hu
    obtain ⟨before, o, later, hl, rfl, hc⟩ := (lastActive_after os u).1 hu
    exact hc (h before o later hl)

theorem Opened.append (h : Opened before u) (hc : .close u ∉ later) :
    Opened (before ++ later) u := by
  obtain ⟨first, o, mid, rfl, ho, hm⟩ := h
  refine ⟨first, o, mid ++ later, by simp, ho, ?_⟩
  rw [List.mem_append, not_or]
  exact ⟨hm, hc⟩

theorem Active.opened_or_saved (h : Active os u) :
    Opened os u ∨
      ∃ before content later,
        Last Touches os before (.markSaved u content) later ∧ ¬ Opened before u := by
  obtain ⟨before, o, later, hl, rfl, hc⟩ := h
  have hn : o ≠ .close o.uri := by
    intro he
    have ht := hl.holds
    rw [he] at ht
    exact ht
  have hlater : .close o.uri ∉ o :: later := by
    rw [List.mem_cons, not_or]
    exact ⟨Ne.symm hn, hc⟩
  have hb : Opened before o.uri → Opened os o.uri := by
    intro hb
    rw [hl.split]
    exact hb.append hlater
  cases o with
  | add v languageId version content => exact .inl ⟨before, _, later, hl.split, rfl, hc⟩
  | change v version content => exact .inl (hb (touches_change_iff.1 hl.holds))
  | close => exact absurd rfl hn
  | markSaved v content =>
      by_cases hv : Opened before v
      · exact .inl (hb hv)
      · exact .inr ⟨before, content, later, hl, hv⟩

end Active

end ContractLint.Documents
