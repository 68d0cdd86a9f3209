import ContractLint.Proofs.Json.Containers
import ContractLint.Json.Record

namespace ContractLint.Json

variable {α σ : Type} {t r rest : List Char} {c : Char}

section Scalars

theorem length_of_skipScalar (h : skipScalar t = .ok rest) : rest.length < t.length := by
  unfold skipScalar at h
  split at h
  · cases h
  · exact Nat.lt_succ_of_le (length_of_readWord h)
  · exact Nat.lt_succ_of_le (length_of_readWord h)
  · exact Nat.lt_succ_of_le (length_of_readWord h)
  · exact Nat.lt_succ_of_lt (length_of_skipString h)
  · split at h
    · exact length_of_skipNumber h
    · cases h

theorem skipScalar_append (h : skipScalar t = .ok rest) (z : List Char) :
    skipScalar (t ++ '\x7d' :: z) = .ok (rest ++ '\x7d' :: z) := by
  unfold skipScalar at h
  split at h
  · cases h
  · exact readWord_append h _
  · exact readWord_append h _
  · exact readWord_append h _
  · exact skipString_append h _
  · split at h
    · next hn ht hf hs hc =>
        simp only [List.cons_append, skipScalar, hc, if_true]
        exact skipNumber_append h
    · cases h

theorem skipScalar_of_readScalar {v : Json} (h : readScalar t = .ok (v, rest)) :
    skipScalar t = .ok rest := by
  unfold readScalar at h
  split at h
  · cases h
  · exact (readWord_value h).1
  · exact (readWord_value h).1
  · exact (readWord_value h).1
  · obtain ⟨⟨cs, u⟩, hu, h⟩ := bind_eq_ok.1 h
    cases h
    exact skipString_of_readString hu
  · split at h
    · next hn ht hf hs hc =>
        simp only [skipScalar, hc, if_true]
        exact (of_readNumber h).1
    · cases h

end Scalars

section Values

def passing (skip : List Char → Except Fault (List Char)) : Reader Unit := fun t => do
  return ((), ← skip t)

theorem passing_eq_ok {skip : List Char → Except Fault (List Char)} :
    passing skip t = .ok ((), rest) ↔ skip t = .ok rest := by
  constructor
  · intro h
    obtain ⟨r, hr, h⟩ := bind_eq_ok.1 h
    cases h
    exact hr
  · intro h
    exact bind_eq_ok.2 ⟨_, h, rfl⟩

inductive Passed (inner : Reader Unit) (t : List Char) : List Char → Prop where
  | list {r rest : List Char} {us : List Unit} :
      skipGap t = '[' :: r → Listed inner r us rest → Passed inner t rest
  | object {r rest : List Char} :
      skipGap t = '\x7b' :: r → Gathered .skip (skipMember inner) () r () rest →
        Passed inner t rest
  | scalar {rest : List Char} :
      (∀ r, skipGap t ≠ '[' :: r) → (∀ r, skipGap t ≠ '\x7b' :: r) →
        skipScalar (skipGap t) = .ok rest → Passed inner t rest

theorem shortens_skipMember {inner : Reader Unit} (hv : ReadsValue inner) :
    Shortens (skipMember inner) := by
  intro _ name t u rest h
  obtain ⟨r, hr, h⟩ := bind_eq_ok.1 h
  have hl := length_of_skipGap (skipGap_of_readColon hr)
  have hi := hv.consumes h
  omega

theorem skipValueWithin_succ {fuel : Nat} (hv : ReadsValue (passing (skipValueWithin fuel))) :
    skipValueWithin (fuel + 1) t = .ok rest ↔ Passed (passing (skipValueWithin fuel)) t rest := by
  constructor
  · intro h
    unfold skipValueWithin at h
    dsimp only at h
    split at h
    · next r hs =>
        obtain ⟨⟨us, u⟩, hr, h⟩ := bind_eq_ok.1 h
        cases h
        exact .list hs ((readItems_iff hv).1 hr)
    · next r hs =>
        obtain ⟨⟨⟨⟩, u⟩, hr, h⟩ := bind_eq_ok.1 h
        cases h
        exact .object hs ((readMembers_iff (shortens_skipMember hv)).1 hr)
    · next h₁ h₂ => exact .scalar h₁ h₂ h
  · intro h
    unfold skipValueWithin
    cases h with
    | list hs hl =>
        simp only [hs]
        exact bind_eq_ok.2 ⟨_, (readItems_iff hv).2 hl, rfl⟩
    | object hs hg =>
        simp only [hs]
        exact bind_eq_ok.2 ⟨_, (readMembers_iff (shortens_skipMember hv)).2 hg, rfl⟩
    | scalar h₁ h₂ h => 
        dsimp only
        split
        · next hs => exact absurd hs (h₁ _)
        · next hs => exact absurd hs (h₂ _)
        · exact h

theorem Passed.length_lt {inner : Reader Unit} (hv : ReadsValue inner)
    (h : Passed inner t rest) : rest.length < t.length := by
  cases h with
  | list hs hl => exact Nat.lt_trans (hl.length_lt hv) (length_of_skipGap hs)
  | object hs hg =>
      exact Nat.lt_trans (hg.length_lt (shortens_skipMember hv)) (length_of_skipGap hs)
  | scalar _ _ h => exact Nat.lt_of_lt_of_le (length_of_skipScalar h) (skipGap_length_le t)

theorem Passed.opens {inner : Reader Unit} (h : Passed inner t rest) :
    ∃ c r, skipGap t = c :: r ∧ c ≠ ']' := by
  cases h with
  | list hs _ => exact ⟨_, _, hs, by decide⟩
  | object hs _ => exact ⟨_, _, hs, by decide⟩
  | scalar _ _ h =>
      cases hs : skipGap t with
      | nil =>
          rw [hs] at h
          cases h
      | cons c r =>
          refine ⟨c, r, rfl, ?_⟩
          rintro rfl
          rw [hs] at h
          cases h

theorem readsValue_skipValueWithin (fuel : Nat) :
    ReadsValue (passing (skipValueWithin fuel)) := by
  induction fuel with
  | zero =>
      have hn {t u rest} (h : passing (skipValueWithin 0) t = .ok (u, rest)) : False := by
        cases h
      exact ⟨fun h => (hn h).elim, fun h => (hn h).elim⟩
  | succ fuel ih =>
      have hp {t u rest} (h : passing (skipValueWithin (fuel + 1)) t = .ok (u, rest)) :=
        (skipValueWithin_succ ih).1 (passing_eq_ok.1 h)
      exact ⟨fun h => (hp h).length_lt ih, fun h => (hp h).opens⟩

theorem Passed.extend {inner inner' : Reader Unit} {z : List Char} (hv : ReadsValue inner)
    (hc : Carries inner inner' z (t.length - 1))
    (hz : ∀ {u v}, skipScalar u = .ok v → skipScalar (u ++ z) = .ok (v ++ z))
    (h : Passed inner t rest) : Passed inner' (t ++ z) (rest ++ z) := by
  cases h with
  | list hs hl =>
      have hr := length_of_skipGap hs
      obtain ⟨us, hl⟩ := hl.extend hv hc (by omega)
      exact .list (skipGap_append hs z) hl
  | @object r _ hs hg =>
      have hr := length_of_skipGap hs
      have hm : CarriesMembers (skipMember inner) (skipMember inner') z (t.length - 1) := by
        intro _ name u _ v hu h
        obtain ⟨w, hw, h⟩ := bind_eq_ok.1 h
        have hl := length_of_skipGap (skipGap_of_readColon hw)
        obtain ⟨_, h⟩ := hc (by omega) h
        exact bind_eq_ok.2 ⟨_, readColon_append hw z, h⟩
      exact .object (skipGap_append hs z) (hg.extend (shortens_skipMember hv) hm (by omega))
  | scalar h₁ h₂ h =>
      cases hs : skipGap t with
      | nil =>
          rw [hs] at h
          cases h
      | cons c r =>
          have hs' := skipGap_append hs z
          rw [hs] at h h₁ h₂
          -- The first character tells the kinds of values apart, and it stays the first.
          refine .scalar (fun r' he => ?_) (fun r' he => ?_) ?_
          · exact h₁ r (by rw [(List.cons.inj (hs'.symm.trans he)).1])
          · exact h₂ r (by rw [(List.cons.inj (hs'.symm.trans he)).1])
          · rw [hs']
            exact hz h

theorem Passed.congr {inner inner' : Reader Unit} (hv : ReadsValue inner)
    (hc : ∀ {u v}, u.length < t.length → inner u = .ok ((), v) → inner' u = .ok ((), v))
    (h : Passed inner t rest) : Passed inner' t rest := by
  have he : Carries inner inner' [] (t.length - 1) := by
    intro u _ v hu h
    have hl := hv.consumes h
    exact ⟨(), by simpa using hc (by omega) h⟩
  simpa using h.extend hv he (by simp)

theorem skipValueWithin_of_lt {fuel fuel' : Nat} (h : skipValueWithin fuel t = .ok rest)
    (hf : t.length < fuel') : skipValueWithin fuel' t = .ok rest := by
  induction fuel generalizing t rest fuel' with
  | zero => cases h
  | succ fuel ih =>
      cases fuel' with
      | zero => omega
      | succ fuel' =>
          -- The values inside are shorter than the text, so there is fuel enough for them, too.
          have hv := readsValue_skipValueWithin
          refine (skipValueWithin_succ (hv fuel')).2 ?_
          refine ((skipValueWithin_succ (hv fuel)).1 h).congr (hv fuel) ?_
          intro u v hu h
          exact passing_eq_ok.2 (ih (passing_eq_ok.1 h) (by omega))

theorem skipValue_eq_ok :
    skipValue t = .ok rest ↔ skipValueWithin (t.length + 1) t = .ok rest := by
  rw [skipValue]

theorem readsValue_skipValue : ReadsValue (passing skipValue) := by
  have hw {t u rest} (h : passing skipValue t = .ok (u, rest)) :
      passing (skipValueWithin (t.length + 1)) t = .ok ((), rest) :=
    passing_eq_ok.2 (skipValue_eq_ok.1 (passing_eq_ok.1 h))
  exact ⟨fun h => (readsValue_skipValueWithin _).consumes (hw h),
    fun h => (readsValue_skipValueWithin _).opens (hw h)⟩

theorem skipValue_iff : skipValue t = .ok rest ↔ Passed (passing skipValue) t rest := by
  have hv := readsValue_skipValueWithin t.length
  rw [skipValue_eq_ok, skipValueWithin_succ hv]
  constructor
  · intro h
    refine h.congr hv fun hu h => passing_eq_ok.2 (skipValue_eq_ok.2 ?_)
    exact skipValueWithin_of_lt (passing_eq_ok.1 h) (Nat.lt_succ_self _)
  · intro h
    refine h.congr readsValue_skipValue fun hu h => passing_eq_ok.2 ?_
    exact skipValueWithin_of_lt (skipValue_eq_ok.1 (passing_eq_ok.1 h)) hu

theorem skipValue_append {t rest : List Char} (h : skipValue t = .ok rest) (z : List Char) :
    skipValue (t ++ '\x7d' :: z) = .ok (rest ++ '\x7d' :: z) := by
  have hv := readsValue_skipValue
  refine skipValue_iff.2 ((skipValue_iff.1 h).extend hv ?_ fun h => skipScalar_append h z)
  intro u _ v hu h
  have hl := hv.consumes h
  have hs : u.length < t.length := by omega
  exact ⟨(), passing_eq_ok.2 (skipValue_append (passing_eq_ok.1 h) z)⟩
termination_by t.length

end Values

section Readers

def Skips (reader : Reader α) : Prop :=
  ∀ ⦃t a rest⦄, reader t = .ok (a, rest) → skipValue t = .ok rest

theorem Skips.readsValue {reader : Reader α} (h : Skips reader) : ReadsValue reader :=
  ⟨fun hr => readsValue_skipValue.consumes (passing_eq_ok.2 (h hr)),
    fun hr => readsValue_skipValue.opens (passing_eq_ok.2 (h hr))⟩

def SkipsMember (member : σ → String → Reader σ) : Prop :=
  ∀ ⦃s name t s' rest⦄, member s name t = .ok (s', rest) →
    ∃ u, readColon t = .ok u ∧ skipValue u = .ok rest

theorem SkipsMember.shortens {member : σ → String → Reader σ} (h : SkipsMember member) :
    Shortens member := by
  intro s name t s' rest hr
  obtain ⟨u, hu, hs⟩ := h hr
  have hl := length_of_skipGap (skipGap_of_readColon hu)
  have hv := readsValue_skipValue.consumes (passing_eq_ok.2 hs)
  omega

theorem skipValue_of_listed {item : Reader α} {as : List α} (hi : Skips item)
    (hs : skipGap t = '[' :: r) (h : Listed item r as rest) : skipValue t = .ok rest := by
  have hc : Carries item (passing skipValue) [] r.length := by
    intro u a v _ h
    exact ⟨(), by simpa using passing_eq_ok.2 (hi h)⟩
  obtain ⟨us, hl⟩ := h.extend hi.readsValue hc (Nat.le_refl _)
  exact skipValue_iff.2 (.list hs (by simpa using hl))

theorem skipValue_of_gathered {mode : Mode} {member : σ → String → Reader σ} {s s' : σ}
    (hm : SkipsMember member) (hs : skipGap t = '\x7b' :: r)
    (h : Gathered mode member s r s' rest) : skipValue t = .ok rest := by
  have hc : CarriesMembers member (skipMember (passing skipValue)) [] r.length := by
    intro s name u s' v _ h
    obtain ⟨w, hw, hv⟩ := hm h
    rw [List.append_nil, List.append_nil]
    exact bind_eq_ok.2 ⟨w, hw, passing_eq_ok.2 hv⟩
  have hg := h.extend hm.shortens hc (Nat.le_refl _)
  exact skipValue_iff.2 (.object hs (by simpa using hg))

theorem skipValue_of_scalar {v : Json} (h₁ : ∀ r, skipGap t ≠ '[' :: r)
    (h₂ : ∀ r, skipGap t ≠ '\x7b' :: r) (h : readScalar (skipGap t) = .ok (v, rest)) :
    skipValue t = .ok rest :=
  skipValue_iff.2 (.scalar h₁ h₂ (skipScalar_of_readScalar h))

theorem skipsMember_keepMember {item : Reader Json} (hi : Skips item) :
    SkipsMember (keepMember item) := by
  intro s name t s' rest h
  obtain ⟨u, hu, h⟩ := bind_eq_ok.1 h
  obtain ⟨⟨v, w⟩, hw, h⟩ := bind_eq_ok.1 h
  cases h
  exact ⟨u, hu, hi hw⟩

theorem skips_readValueWith {inner : Option (Reader Json)} (hi : ∀ item ∈ inner, Skips item) :
    Skips (readValueWith inner) := by
  intro t v rest h
  unfold readValueWith at h
  dsimp only at h
  split at h
  · next r hs =>
      split at h
      · cases h
      · next item =>
          obtain ⟨⟨vs, u⟩, hr, h⟩ := bind_eq_ok.1 h
          cases h
          have hi := hi item rfl
          exact skipValue_of_listed hi hs ((readItems_iff hi.readsValue).1 hr)
  · next r hs =>
      split at h
      · cases h
      · next item =>
          obtain ⟨⟨ms, u⟩, hr, h⟩ := bind_eq_ok.1 h
          cases h
          have hm := skipsMember_keepMember (hi item rfl)
          exact skipValue_of_gathered hm hs ((readMembers_iff hm.shortens).1 hr)
  · next h₁ h₂ => exact skipValue_of_scalar h₁ h₂ h

theorem skips_readValue (nesting : Nat) : Skips (readValue nesting) := by
  induction nesting with
  | zero => exact skips_readValueWith (by simp)
  | succ n ih => exact skips_readValueWith (by simpa using ih)

theorem readText_eq_ok {s : String} :
    readText t = .ok (s, rest) ↔
      ∃ r cs, skipGap t = '"' :: r ∧ readString r = .ok (cs, rest) ∧ s = String.ofList cs := by
  constructor
  · intro h
    unfold readText at h
    split at h
    · cases h
    · next r hs =>
        obtain ⟨⟨cs, u⟩, hu, h⟩ := bind_eq_ok.1 h
        cases h
        exact ⟨r, cs, hs, hu, rfl⟩
    · cases h
  · rintro ⟨r, cs, hs, hu, rfl⟩
    simp only [readText, hs]
    exact bind_eq_ok.2 ⟨_, hu, rfl⟩

theorem readSequence_eq_ok {item : Nat → Reader α} {nesting : Nat} {as : List α} :
    readSequence item nesting t = .ok (as, rest) ↔
      ∃ n r, nesting = n + 1 ∧ skipGap t = '[' :: r ∧
        readItems .keep (item n) r = .ok (as, rest) := by
  constructor
  · intro h
    unfold readSequence at h
    split at h
    · cases h
    · next r hs =>
        cases nesting with
        | zero => cases h
        | succ n => exact ⟨n, r, rfl, hs, h⟩
    · cases h
  · rintro ⟨n, r, rfl, hs, h⟩
    simp only [readSequence, hs, h]

theorem skips_readText : Skips readText := by
  intro t s rest h
  obtain ⟨r, cs, hs, hu, -⟩ := readText_eq_ok.1 h
  have hr : readScalar (skipGap t) = .ok (.str (String.ofList cs), rest) := by
    rw [hs]
    exact bind_eq_ok.2 ⟨_, hu, rfl⟩
  exact skipValue_of_scalar (by simp [hs]) (by simp [hs]) hr

theorem skips_readSequence {item : Nat → Reader α} (hi : ∀ n, Skips (item n)) (nesting : Nat) :
    Skips (readSequence item nesting) := by
  intro t as rest h
  obtain ⟨n, r, -, hs, h⟩ := readSequence_eq_ok.1 h
  exact skipValue_of_listed (hi n) hs ((readItems_iff (hi n).readsValue).1 h)

theorem readWhole_eq_ok {reader : Reader α} {text : String} {a : α} :
    readWhole reader text = .ok a ↔
      ∃ rest, reader text.toList = .ok (a, rest) ∧ skipGap rest = [] := by
  unfold readWhole
  dsimp only
  split
  · next he => simp [he]
  · next b rest hb =>
      split
      · next hs => simp [hb, hs]
      · next hs =>
          simp only [hb, reduceCtorEq, Except.ok.injEq, Prod.mk.injEq, false_iff]
          rintro ⟨_, ⟨-, rfl⟩, hn⟩
          exact hs hn

end Readers

section Records

variable {shape : Record σ α} {draft draft' : σ}

theorem mapError_eq_ok {ε ε' β : Type} {f : ε → ε'} {x : Except ε β} {b : β} :
    x.mapError f = .ok b ↔ x = .ok b := by
  cases x <;> simp [Except.mapError]

theorem RecordField.skips_fill {f : RecordField σ} (hf : ∀ nesting, Skips (f.read nesting))
    (nesting : Nat) (draft : σ) : Skips (f.fill nesting draft) := by
  intro t draft' rest h
  obtain ⟨⟨a, u⟩, hu, h⟩ := bind_eq_ok.1 h
  cases h
  exact hf nesting hu

namespace Record

theorem eq_of_nextField_zero (h : shape.nextField 0 t = .ok rest) : rest = skipGap t := by
  unfold nextField at h
  split at h <;> cases h
  rfl

theorem nextField_zero_of (hs : skipGap t = c :: r) (hc : c ≠ ']') :
    shape.nextField 0 t = .ok (skipGap t) := by
  unfold nextField
  rw [hs]
  split
  · next h => cases h
  · next h => exact absurd (List.cons.inj h).1 hc
  · rfl

theorem eq_of_nextField_succ {count : Nat} (h : shape.nextField (count + 1) t = .ok rest) :
    ∃ r, skipGap t = ',' :: r ∧ rest = skipGap r := by
  unfold nextField at h
  split at h
  · cases h
  · cases h
  · rw [if_neg (Nat.succ_ne_zero _)] at h
    split at h
    · next r hs =>
        split at h <;> cases h
        exact ⟨r, hs, rfl⟩
    · cases h

theorem nextField_succ_of {count : Nat} {q : List Char} (hs : skipGap t = ',' :: r)
    (hr : skipGap r = c :: q) (hc : c ≠ ']') :
    shape.nextField (count + 1) t = .ok (skipGap r) := by
  unfold nextField
  rw [hs]
  split
  · next h => cases h
  · next h => exact absurd (List.cons.inj h).1 (by decide)
  · rw [if_neg (Nat.succ_ne_zero _)]
    split
    · next h =>
        rw [← (List.cons.inj h).2, hr]
        split
        · next h => cases h
        · next h => exact absurd (List.cons.inj h).1 hc
        · rfl
    · next h => exact absurd rfl (h r)

theorem nextField_ne_ok {count : Nat} (hs : skipGap t = ']' :: r) :
    shape.nextField count t ≠ .ok rest := by
  unfold nextField
  rw [hs]
  intro h
  cases h

theorem endList_eq_ok : endList t = .ok rest ↔ skipGap t = ']' :: rest := by
  constructor
  · intro h
    unfold endList at h
    split at h
    · cases h
    · next hs =>
        cases h
        exact hs
    · split at h <;> cases h
    · cases h
  · intro hs
    simp only [endList, hs]

theorem readObject_eq_ok {nesting : Nat} {a : α} :
    shape.readObject nesting t = .ok (a, rest) ↔
      ∃ d, readMembers .keep (shape.readMember nesting) shape.blank t = .ok (d, rest) ∧
        shape.finish d = .ok a := by
  constructor
  · intro h
    obtain ⟨⟨d, u⟩, hr, h⟩ := bind_eq_ok.1 h
    dsimp only at h
    split at h
    · next hd =>
        cases h
        exact ⟨d, mapError_eq_ok.1 hr, hd⟩
    · cases h
  · rintro ⟨d, hr, hd⟩
    refine bind_eq_ok.2 ⟨_, mapError_eq_ok.2 hr, ?_⟩
    simp only [hd]
    rfl

theorem readArray_eq_ok {nesting : Nat} {a : α} :
    shape.readArray nesting t = .ok (a, rest) ↔
      ∃ d u, shape.fillInOrder nesting shape.fields 0 shape.blank t = .ok (d, u) ∧
        endList u = .ok rest ∧ shape.finish d = .ok a := by
  constructor
  · intro h
    obtain ⟨⟨d, u⟩, hr, h⟩ := bind_eq_ok.1 h
    dsimp only at h
    split at h
    · next hd =>
        obtain ⟨w, hw, h⟩ := bind_eq_ok.1 h
        cases h
        exact ⟨d, u, mapError_eq_ok.1 hr, hw, hd⟩
    · cases h
  · rintro ⟨d, u, hr, hw, hd⟩
    refine bind_eq_ok.2 ⟨_, mapError_eq_ok.2 hr, ?_⟩
    simp only [hd]
    exact bind_eq_ok.2 ⟨_, hw, rfl⟩

theorem read_eq_ok {nesting : Nat} {a : α} :
    shape.read nesting t = .ok (a, rest) ↔
      ∃ n r, nesting = n + 1 ∧
        (skipGap t = '[' :: r ∧ shape.readArray n r = .ok (a, rest) ∨
          skipGap t = '\x7b' :: r ∧ shape.readObject n r = .ok (a, rest)) := by
  constructor
  · intro h
    unfold read at h
    split at h
    · cases h
    · next r hs =>
        cases nesting with
        | zero => cases h
        | succ n => exact ⟨n, r, rfl, .inl ⟨hs, h⟩⟩
    · next r hs =>
        cases nesting with
        | zero => cases h
        | succ n => exact ⟨n, r, rfl, .inr ⟨hs, h⟩⟩
    · cases h
  · rintro ⟨n, r, rfl, ⟨hs, h⟩ | ⟨hs, h⟩⟩ <;> simp only [read, hs, h]

variable (hf : ∀ f ∈ shape.fields, ∀ nesting, Skips (f.read nesting))

include hf

theorem items_of_fillInOrder {fields : List (RecordField σ)} {nesting count : Nat}
    {u : List Char} (hs : fields ⊆ shape.fields)
    (h : shape.fillInOrder nesting fields (count + 1) draft t = .ok (draft', u))
    (he : endList u = .ok rest) : ∃ us, Items (passing skipValue) t us rest := by
  induction fields generalizing draft t count with
  | nil =>
      cases h
      exact ⟨[], .close (endList_eq_ok.1 he)⟩
  | cons f fs ih =>
      obtain ⟨start, hn, h⟩ := bind_eq_ok.1 h
      obtain ⟨⟨draft₁, w⟩, hw, h⟩ := bind_eq_ok.1 h
      obtain ⟨us, hi⟩ := ih (List.subset_of_cons_subset hs) h
      obtain ⟨r, hr, rfl⟩ := eq_of_nextField_succ hn
      have hv := f.skips_fill (hf f (hs List.mem_cons_self)) _ _ hw
      exact ⟨_, .next hr (passing_eq_ok.2 hv) hi⟩

theorem listed_of_fillInOrder {nesting : Nat} {u : List Char}
    (h : shape.fillInOrder nesting shape.fields 0 draft t = .ok (draft', u))
    (he : endList u = .ok rest) : ∃ us, Listed (passing skipValue) t us rest := by
  cases hs : shape.fields with
  | nil =>
      rw [hs] at h
      cases h
      exact ⟨[], .empty (endList_eq_ok.1 he)⟩
  | cons f fs =>
      rw [hs] at h
      obtain ⟨start, hn, h⟩ := bind_eq_ok.1 h
      obtain ⟨⟨draft₁, w⟩, hw, h⟩ := bind_eq_ok.1 h
      obtain ⟨us, hi⟩ := items_of_fillInOrder hf (by simp [hs]) h he
      rw [eq_of_nextField_zero hn] at hw
      have hv := f.skips_fill (hf f (by simp [hs])) _ _ hw
      exact ⟨_, .items (passing_eq_ok.2 hv) hi⟩

theorem skipsMember_readMember (nesting : Nat) : SkipsMember (shape.readMember nesting) := by
  intro draft name t draft' rest h
  unfold readMember at h
  split at h
  · obtain ⟨u, hu, h⟩ := bind_eq_ok.1 h
    obtain ⟨v, hv, h⟩ := bind_eq_ok.1 h
    cases h
    exact ⟨u, hu, hv⟩
  · next f hs =>
      split at h
      · cases h
      · obtain ⟨u, hu, h⟩ := bind_eq_ok.1 h
        exact ⟨u, hu, f.skips_fill (hf f (List.mem_of_find?_eq_some hs)) _ _ h⟩

theorem skips_read (nesting : Nat) : Skips (shape.read nesting) := by
  intro t a rest h
  obtain ⟨n, r, -, ⟨hs, h⟩ | ⟨hs, h⟩⟩ := read_eq_ok.1 h
  · obtain ⟨d, u, hr, hw, -⟩ := readArray_eq_ok.1 h
    obtain ⟨us, hl⟩ := listed_of_fillInOrder hf hr hw
    exact skipValue_iff.2 (.list hs hl)
  · obtain ⟨d, hr, -⟩ := readObject_eq_ok.1 h
    have hm := skipsMember_readMember hf n
    exact skipValue_of_gathered hm hs ((readMembers_iff hm.shortens).1 hr)

end Record

end Records

end ContractLint.Json
