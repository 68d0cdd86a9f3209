import ContractLint.Proofs.Json.Decoding
import Mathlib.Data.List.Pairwise

namespace ContractLint.Json

variable {α σ : Type} {n : Nat} {t r u rest : List Char} {v : Json} {name : String}

structure Slot (σ : Type) where
  field : RecordField σ
  accepts : Json → field.Value → Prop
  skips : ∀ nesting, Skips (field.read nesting)
  decodes : Decodes field.read accepts
  get_set : ∀ d a, field.get (field.set d a) = some a

theorem Slot.fill_eq_ok (s : Slot σ) (h : readValue n t = .ok (v, rest)) {d d' : σ}
    {q : List Char} :
    s.field.fill n d t = .ok (d', q) ↔ (∃ a, s.accepts v a ∧ d' = s.field.set d a) ∧ q = rest := by
  constructor
  · intro hf
    obtain ⟨⟨a, w⟩, hr, hf⟩ := bind_eq_ok.1 hf
    cases hf
    obtain ⟨ha, rfl⟩ := (s.decodes h _ _).1 hr
    exact ⟨⟨a, ha, rfl⟩, rfl⟩
  · rintro ⟨⟨a, ha, rfl⟩, rfl⟩
    exact bind_eq_ok.2 ⟨_, (s.decodes h _ _).2 ⟨ha, rfl⟩, rfl⟩

def slotNamed (slots : List (Slot σ)) (name : String) : Option (Slot σ) :=
  slots.find? (·.field.answersTo name)

section Objects

inductive Takes (slots : List (Slot σ)) (d : σ) (name : String) (v : Json) : σ → Prop where
  | unknown : slotNamed slots name = none → Takes slots d name v d
  | known {s : Slot σ} {a : s.field.Value} :
      slotNamed slots name = some s → s.field.get d = none → s.accepts v a →
        Takes slots d name v (s.field.set d a)

inductive Gathers (slots : List (Slot σ)) : σ → List (String × Json) → σ → Prop where
  | nil {d : σ} : Gathers slots d [] d
  | cons {d d₁ d' : σ} {name : String} {v : Json} {ms : List (String × Json)} :
      Takes slots d name v d₁ → Gathers slots d₁ ms d' → Gathers slots d ((name, v) :: ms) d'

variable {shape : Record σ α} {slots : List (Slot σ)}
  (hs : shape.fields = slots.map (·.field))

include hs

theorem find?_answersTo (name : String) :
    shape.fields.find? (·.answersTo name) = (slotNamed slots name).map (·.field) := by
  rw [hs, List.find?_map]
  rfl

theorem skips_fields (f : RecordField σ) (hf : f ∈ shape.fields) (nesting : Nat) :
    Skips (f.read nesting) := by
  rw [hs] at hf
  obtain ⟨s, -, rfl⟩ := List.mem_map.1 hf
  exact s.skips nesting

theorem readMember_eq_ok (hc : readColon t = .ok u) (h : readValue n u = .ok (v, rest)) {d d' : σ}
    {q : List Char} :
    shape.readMember n d name t = .ok (d', q) ↔ Takes slots d name v d' ∧ q = rest := by
  unfold Record.readMember
  rw [find?_answersTo hs]
  cases hf : slotNamed slots name with
  | none =>
      have hv : skipValue u = .ok rest := skips_readValue n h
      simp only [Option.map_none, hc, hv, bind, Except.bind, pure, Except.pure]
      constructor
      · intro h
        cases h
        exact ⟨.unknown hf, rfl⟩
      · rintro ⟨ht, rfl⟩
        cases ht with
        | unknown => rfl
        | known hk => simp [hf] at hk
  | some s =>
      simp only [Option.map_some]
      split
      · next hp =>
          constructor
          · intro h
            cases h
          · rintro ⟨ht, -⟩
            cases ht with
            | unknown hn => simp [hf] at hn
            | known hk hg _ =>
                cases hf.symm.trans hk
                simp [hg] at hp
      · next hp =>
          have hg : s.field.get d = none := by simpa using hp
          simp only [hc, bind, Except.bind]
          rw [s.fill_eq_ok h]
          constructor
          · rintro ⟨⟨a, ha, rfl⟩, rfl⟩
            exact ⟨.known hf hg ha, rfl⟩
          · rintro ⟨ht, rfl⟩
            cases ht with
            | unknown hn => simp [hf] at hn
            | known hk hg ha =>
                cases hf.symm.trans hk
                exact ⟨⟨_, ha, rfl⟩, rfl⟩

theorem members_iff {ms ms' : List (String × Json)}
    (h : Members .keep (keepMember (readValue n)) ms t ms' rest) :
    ∃ new, ms' = ms ++ new ∧ ∀ d d' q,
      Members .keep (shape.readMember n) d t d' q ↔ Gathers slots d new d' ∧ q = rest := by
  induction h with
  | @last ms _ name t u w rest hn hm hb =>
      obtain ⟨x, hc, hm⟩ := bind_eq_ok.1 hm
      obtain ⟨⟨v, y⟩, hv, hm⟩ := bind_eq_ok.1 hm
      cases hm
      -- Names and ends of members do not depend on who reads the values, so both readings stop here.
      refine ⟨[(name, v)], rfl, fun d d' q => ⟨fun h => ?_, ?_⟩⟩
      · cases h with
        | last hn' hm' hb' =>
            cases hn.symm.trans hn'
            obtain ⟨ht, rfl⟩ := (readMember_eq_ok hs hc hv).1 hm'
            exact ⟨.cons ht .nil, (List.cons.inj (hb'.symm.trans hb)).2⟩
        | more hn' hm' hb' =>
            cases hn.symm.trans hn'
            obtain ⟨-, rfl⟩ := (readMember_eq_ok hs hc hv).1 hm'
            simp [hb] at hb'
      · rintro ⟨hg, rfl⟩
        cases hg with
        | cons ht hg =>
            cases hg
            exact .last hn ((readMember_eq_ok hs hc hv).2 ⟨ht, rfl⟩) hb
  | @more ms _ _ name t u w w' x rest hn hm hb hx _ ih =>
      obtain ⟨y, hc, hm⟩ := bind_eq_ok.1 hm
      obtain ⟨⟨v, z⟩, hv, hm⟩ := bind_eq_ok.1 hm
      cases hm
      obtain ⟨new, rfl, ih⟩ := ih
      refine ⟨(name, v) :: new, by simp, fun d d' q => ⟨fun h => ?_, ?_⟩⟩
      · cases h with
        | last hn' hm' hb' =>
            cases hn.symm.trans hn'
            obtain ⟨-, rfl⟩ := (readMember_eq_ok hs hc hv).1 hm'
            simp [hb] at hb'
        | more hn' hm' hb' hx' h =>
            cases hn.symm.trans hn'
            obtain ⟨ht, rfl⟩ := (readMember_eq_ok hs hc hv).1 hm'
            obtain rfl := (List.cons.inj (hb.symm.trans hb')).2
            obtain rfl := (List.cons.inj (hx.symm.trans hx')).2
            obtain ⟨hg, rfl⟩ := (ih _ _ _).1 h
            exact ⟨.cons ht hg, rfl⟩
      · rintro ⟨hg, rfl⟩
        cases hg with
        | cons ht hg =>
            exact .more hn ((readMember_eq_ok hs hc hv).2 ⟨ht, rfl⟩) hb hx
              ((ih _ _ _).2 ⟨hg, rfl⟩)

theorem gathered_iff {ms : List (String × Json)} {d d' : σ} {q : List Char}
    (h : Gathered .keep (keepMember (readValue n)) [] t ms rest) :
    Gathered .keep (shape.readMember n) d t d' q ↔ Gathers slots d ms d' ∧ q = rest := by
  cases h with
  | empty hb =>
      constructor
      · intro h
        cases h with
        | empty hb' => exact ⟨.nil, (List.cons.inj (hb'.symm.trans hb)).2⟩
        | members hb' => simp [hb] at hb'
      · rintro ⟨hg, rfl⟩
        cases hg
        exact .empty hb
  | members hb hm =>
      obtain ⟨new, rfl, hi⟩ := members_iff hs hm
      constructor
      · intro h
        cases h with
        | empty hb' => simp [hb] at hb'
        | members hb' hm' =>
            obtain rfl := (List.cons.inj (hb.symm.trans hb')).2
            exact (hi _ _ _).1 hm'
      · exact fun h => .members hb ((hi _ _ _).2 h)

end Objects

section Arrays

inductive Fills : List (Slot σ) → σ → List Json → σ → Prop where
  | nil {d : σ} : Fills [] d [] d
  | cons {s : Slot σ} {ss : List (Slot σ)} {d d' : σ} {v : Json} {vs : List Json}
      {a : s.field.Value} :
      s.accepts v a → Fills ss (s.field.set d a) vs d' → Fills (s :: ss) d (v :: vs) d'

variable {shape : Record σ α}

def FillsFrom (shape : Record σ α) (n : Nat) (fields : List (RecordField σ)) (count : Nat)
    (d : σ) (t : List Char) (d' : σ) (rest : List Char) : Prop :=
  ∃ u, shape.fillInOrder n fields count d t = .ok (d', u) ∧ Record.endList u = .ok rest

theorem fillsFrom_nil {count : Nat} {d d' : σ} :
    FillsFrom shape n [] count d t d' rest ↔ d' = d ∧ skipGap t = ']' :: rest := by
  constructor
  · rintro ⟨u, hf, he⟩
    cases hf
    exact ⟨rfl, Record.endList_eq_ok.1 he⟩
  · rintro ⟨rfl, he⟩
    exact ⟨t, rfl, Record.endList_eq_ok.2 he⟩

theorem fillsFrom_cons {f : RecordField σ} {fs : List (RecordField σ)} {count : Nat} {d d' : σ} :
    FillsFrom shape n (f :: fs) count d t d' rest ↔
      ∃ start d₁ w, shape.nextField count t = .ok start ∧ f.fill n d start = .ok (d₁, w) ∧
        FillsFrom shape n fs (count + 1) d₁ w d' rest := by
  constructor
  · rintro ⟨u, h, he⟩
    obtain ⟨start, hn, h⟩ := bind_eq_ok.1 h
    obtain ⟨⟨d₁, w⟩, hw, h⟩ := bind_eq_ok.1 h
    exact ⟨start, d₁, w, hn, hw, u, h, he⟩
  · rintro ⟨start, d₁, w, hn, hw, u, h, he⟩
    exact ⟨u, bind_eq_ok.2 ⟨_, hn, bind_eq_ok.2 ⟨_, hw, h⟩⟩, he⟩

inductive Ahead (shape : Record σ α) (n count : Nat) (t : List Char) :
    List Json → List Char → Prop where
  | close {rest : List Char} : skipGap t = ']' :: rest → Ahead shape n count t [] rest
  | next {s u rest : List Char} {v : Json} {vs : List Json} :
      shape.nextField count t = .ok s → readValue n s = .ok (v, u) →
        Items (readValue n) u vs rest → Ahead shape n count t (v :: vs) rest

theorem Ahead.of_items {count : Nat} {vs : List Json} (h : Items (readValue n) t vs rest) :
    Ahead shape n (count + 1) t vs rest := by
  cases h with
  | close hb => exact .close hb
  | next hb hv hi =>
      obtain ⟨c, q, hq, hc⟩ := (skips_readValue n).readsValue.opens hv
      rw [skipGap_skipGap] at hq
      exact .next (Record.nextField_succ_of hb hq hc) hv hi

theorem Ahead.of_listed {vs : List Json} (h : Listed (readValue n) t vs rest) :
    Ahead shape n 0 t vs rest := by
  cases h with
  | empty hb => exact .close hb
  | items hv hi =>
      obtain ⟨c, q, hq, hc⟩ := (skips_readValue n).readsValue.opens hv
      rw [skipGap_skipGap] at hq
      exact .next (Record.nextField_zero_of hq hc) hv hi

theorem fillsFrom_iff {slots : List (Slot σ)} {count : Nat} {vs : List Json}
    (h : Ahead shape n count t vs rest) {d d' : σ} {q : List Char} :
    FillsFrom shape n (slots.map (·.field)) count d t d' q ↔ Fills slots d vs d' ∧ q = rest := by
  induction slots generalizing count t vs d with
  | nil =>
      rw [List.map_nil, fillsFrom_nil]
      cases h with
      | close hb =>
          constructor
          · rintro ⟨rfl, he⟩
            exact ⟨.nil, (List.cons.inj (he.symm.trans hb)).2⟩
          · rintro ⟨hf, rfl⟩
            cases hf
            exact ⟨rfl, hb⟩
      | next hn _ _ =>
          constructor
          · rintro ⟨-, he⟩
            exact absurd hn (Record.nextField_ne_ok he)
          · rintro ⟨hf, -⟩
            cases hf
  | cons s ss ih =>
      rw [List.map_cons, fillsFrom_cons]
      cases h with
      | close hb =>
          constructor
          · rintro ⟨start, d₁, w, hn, -⟩
            exact absurd hn (Record.nextField_ne_ok hb)
          · rintro ⟨hf, -⟩
            cases hf
      | @next start u _ v vs hn hv hi =>
          have ih {d : σ} : FillsFrom shape n (ss.map (·.field)) (count + 1) d u d' q ↔
              Fills ss d vs d' ∧ q = rest := ih (.of_items hi)
          constructor
          · rintro ⟨start, d₁, w, hn', hw, h⟩
            cases hn.symm.trans hn'
            obtain ⟨⟨a, ha, rfl⟩, rfl⟩ := (s.fill_eq_ok hv).1 hw
            obtain ⟨hf, rfl⟩ := ih.1 h
            exact ⟨.cons ha hf, rfl⟩
          · rintro ⟨hf, rfl⟩
            cases hf with
            | cons ha hf =>
                exact ⟨_, _, _, hn, (s.fill_eq_ok hv).2 ⟨⟨_, ha, rfl⟩, rfl⟩, ih.2 ⟨hf, rfl⟩⟩

end Arrays

inductive Accepts (shape : Record σ α) (slots : List (Slot σ)) : Json → α → Prop where
  | object {ms : List (String × Json)} {d : σ} {a : α} :
      Gathers slots shape.blank ms d → shape.finish d = .ok a → Accepts shape slots (.obj ms) a
  | array {vs : List Json} {d : σ} {a : α} :
      Fills slots shape.blank vs d → shape.finish d = .ok a → Accepts shape slots (.arr vs) a

section Finished

variable {shape : Record σ α} {slots : List (Slot σ)} {a : α} {d₀ : σ}
  (hf : ∀ d, shape.finish d = .ok a ↔ d = d₀)

include hf

theorem accepts_obj {ms : List (String × Json)} :
    Accepts shape slots (.obj ms) a ↔ Gathers slots shape.blank ms d₀ := by
  constructor
  · intro h
    cases h with
    | object hg ha => exact (hf _).1 ha ▸ hg
  · exact fun h => .object h ((hf _).2 rfl)

theorem accepts_arr {vs : List Json} :
    Accepts shape slots (.arr vs) a ↔ Fills slots shape.blank vs d₀ := by
  constructor
  · intro h
    cases h with
    | array hs ha => exact (hf _).1 ha ▸ hs
  · exact fun h => .array h ((hf _).2 rfl)

end Finished

theorem decodes_read {shape : Record σ α} {slots : List (Slot σ)}
    (hs : shape.fields = slots.map (·.field)) : Decodes shape.read (Accepts shape slots) := by
  intro n t v rest h a q
  rw [Record.read_eq_ok]
  cases shows_of_readValue h with
  | list hb hl =>
      constructor
      · rintro ⟨m, r, hm, ⟨hb', h⟩ | ⟨hb', -⟩⟩
        · obtain rfl := Nat.succ.inj hm
          obtain rfl := (List.cons.inj (hb.symm.trans hb')).2
          obtain ⟨d, u, hf, he, ha⟩ := Record.readArray_eq_ok.1 h
          rw [hs] at hf
          obtain ⟨hf, rfl⟩ := (fillsFrom_iff (.of_listed hl)).1 ⟨u, hf, he⟩
          exact ⟨.array hf ha, rfl⟩
        · simp [hb] at hb'
      · rintro ⟨ha, rfl⟩
        cases ha with
        | array hf ha =>
            obtain ⟨u, hf, he⟩ := (fillsFrom_iff (.of_listed hl)).2 ⟨hf, rfl⟩
            rw [← hs] at hf
            exact ⟨_, _, rfl, .inl ⟨hb, Record.readArray_eq_ok.2 ⟨_, u, hf, he, ha⟩⟩⟩
  | object hb hg =>
      have hm := (Record.skipsMember_readMember (skips_fields hs))
      constructor
      · rintro ⟨m, r, hn, ⟨hb', -⟩ | ⟨hb', h⟩⟩
        · simp [hb] at hb'
        · obtain rfl := Nat.succ.inj hn
          obtain rfl := (List.cons.inj (hb.symm.trans hb')).2
          obtain ⟨d, hr, ha⟩ := Record.readObject_eq_ok.1 h
          obtain ⟨hf, rfl⟩ := (gathered_iff hs hg).1 ((readMembers_iff (hm _).shortens).1 hr)
          exact ⟨.object hf ha, rfl⟩
      · rintro ⟨ha, rfl⟩
        cases ha with
        | object hf ha =>
            have hr := (readMembers_iff (hm _).shortens).2 ((gathered_iff hs hg).2 ⟨hf, rfl⟩)
            exact ⟨_, _, rfl, .inr ⟨hb, Record.readObject_eq_ok.2 ⟨_, hr, ha⟩⟩⟩
  | text hb _ =>
      constructor
      · rintro ⟨_, r, _, ⟨hb', -⟩ | ⟨hb', -⟩⟩ <;> simp [hb] at hb'
      · rintro ⟨ha, -⟩
        cases ha
  | plain hl ho _ hp =>
      constructor
      · rintro ⟨_, r, _, ⟨hb, -⟩ | ⟨hb, -⟩⟩
        · exact absurd hb (hl r)
        · exact absurd hb (ho r)
      · rintro ⟨ha, -⟩
        cases ha <;> cases hp with
        | number hn => cases hn

section Names

def valuesNamed (names : List String) (ms : List (String × Json)) : List Json :=
  (ms.filter fun m => names.contains m.1).map (·.2)

def RecordField.names (f : RecordField σ) : List String :=
  f.name :: f.aliases

theorem answersTo_iff {f : RecordField σ} : f.answersTo name = true ↔ name ∈ f.names := by
  simp only [RecordField.answersTo, RecordField.names, Bool.or_eq_true, decide_eq_true_eq,
    List.contains_iff_mem, List.mem_cons]
  exact or_congr_left eq_comm

theorem valuesNamed_cons_of_mem {names : List String} (h : name ∈ names) (v : Json)
    (ms : List (String × Json)) :
    valuesNamed names ((name, v) :: ms) = v :: valuesNamed names ms := by
  simp [valuesNamed, h]

theorem valuesNamed_cons_of_not_mem {names : List String} (h : name ∉ names) (v : Json)
    (ms : List (String × Json)) :
    valuesNamed names ((name, v) :: ms) = valuesNamed names ms := by
  simp [valuesNamed, h]

inductive Taken {β : Type} (accepts : Json → β → Prop) : Option β → List Json → Option β → Prop where
  | left {b : Option β} : Taken accepts b [] b
  | filled {v : Json} {b : β} : accepts v b → Taken accepts none [v] (some b)

theorem taken_nil {β : Type} {accepts : Json → β → Prop} {b b' : Option β} :
    Taken accepts b [] b' ↔ b = b' := by
  constructor
  · intro h
    cases h
    rfl
  · rintro rfl
    exact .left

theorem taken_cons {β : Type} {accepts : Json → β → Prop} {b b' : Option β} {vs : List Json} :
    Taken accepts b (v :: vs) b' ↔
      b = none ∧ ∃ a, accepts v a ∧ Taken accepts (some a) vs b' := by
  constructor
  · intro h
    cases h with
    | filled ha => exact ⟨rfl, _, ha, .left⟩
  · rintro ⟨rfl, a, ha, h⟩
    cases h with
    | left => exact .filled ha

theorem taken_none_some {β : Type} {accepts : Json → β → Prop} {b : β} {vs : List Json} :
    Taken accepts none vs (some b) ↔ ∃ v, vs = [v] ∧ accepts v b := by
  constructor
  · intro h
    cases h with
    | filled ha => exact ⟨_, rfl, ha⟩
  · rintro ⟨v, rfl, ha⟩
    exact .filled ha

structure Apart (s s' : Slot σ) : Prop where
  names : ∀ name ∈ s.field.names, name ∉ s'.field.names
  right : ∀ d a, s'.field.get (s.field.set d a) = s'.field.get d
  left : ∀ d a, s.field.get (s'.field.set d a) = s.field.get d

theorem Apart.symm {s s' : Slot σ} (h : Apart s s') : Apart s' s :=
  ⟨fun name hn hn' => h.names name hn' hn, h.left, h.right⟩

structure Layout (slots : List (Slot σ)) : Prop where
  apart : slots.Pairwise Apart
  complete : ∀ d d', (∀ s ∈ slots, s.field.get d = s.field.get d') → d = d'

variable {slots : List (Slot σ)}

theorem Layout.apart_of_ne (hl : Layout slots) {s s' : Slot σ} (hs : s ∈ slots) (hs' : s' ∈ slots)
    (h : s ≠ s') : Apart s s' := by
  have : Std.Symm (@Apart σ) := ⟨fun _ _ h => h.symm⟩
  exact hl.apart.forall hs hs' h

theorem gathers_cons_unknown {ms : List (String × Json)} {d d' : σ}
    (hf : slotNamed slots name = none) :
    Gathers slots d ((name, v) :: ms) d' ↔ Gathers slots d ms d' := by
  constructor
  · intro h
    cases h with
    | cons ht hg =>
        cases ht with
        | unknown => exact hg
        | known hk => simp [hf] at hk
  · exact .cons (.unknown hf)

theorem gathers_cons_known {s : Slot σ} {ms : List (String × Json)} {d d' : σ}
    (hf : slotNamed slots name = some s) :
    Gathers slots d ((name, v) :: ms) d' ↔
      s.field.get d = none ∧ ∃ a, s.accepts v a ∧ Gathers slots (s.field.set d a) ms d' := by
  constructor
  · intro h
    cases h with
    | cons ht hg =>
        cases ht with
        | unknown hn => simp [hf] at hn
        | known hk hd ha =>
            cases hf.symm.trans hk
            exact ⟨hd, _, ha, hg⟩
  · rintro ⟨hd, a, ha, hg⟩
    exact .cons (.known hf hd ha) hg

theorem gathers_iff (hl : Layout slots) {ms : List (String × Json)} {d d' : σ} :
    Gathers slots d ms d' ↔
      ∀ s ∈ slots, Taken s.accepts (s.field.get d) (valuesNamed s.field.names ms)
        (s.field.get d') := by
  induction ms generalizing d with
  | nil =>
      constructor
      · intro h s _
        cases h
        exact .left
      · intro h
        have he : d = d' := hl.complete d d' fun s hs => taken_nil.1 (h s hs)
        exact he ▸ .nil
  | cons m ms ih =>
      obtain ⟨name, v⟩ := m
      cases hf : slotNamed slots name with
      | none =>
          rw [gathers_cons_unknown hf, ih]
          have hn : ∀ s ∈ slots, name ∉ s.field.names := fun s hs hm =>
            List.find?_eq_none.1 hf s hs (answersTo_iff.2 hm)
          exact forall₂_congr fun s hs => by rw [valuesNamed_cons_of_not_mem (hn s hs)]
      | some s₀ =>
          have hs₀ : s₀ ∈ slots := List.mem_of_find?_eq_some hf
          have ha₀ := List.find?_some hf
          have hn₀ : name ∈ s₀.field.names := answersTo_iff.1 ha₀
          have ho : ∀ s ∈ slots, s ≠ s₀ → ∀ a,
              s.field.get (s₀.field.set d a) = s.field.get d ∧
                valuesNamed s.field.names ((name, v) :: ms) = valuesNamed s.field.names ms := by
            intro s hs hne a
            have hp := hl.apart_of_ne hs₀ hs hne.symm
            exact ⟨hp.right d a, valuesNamed_cons_of_not_mem (hp.names name hn₀) v ms⟩
          rw [gathers_cons_known hf]
          constructor
          · rintro ⟨hd, a, ha, hg⟩ s hs
            have ht := ih.1 hg s hs
            by_cases he : s = s₀
            · subst he
              rw [s.get_set] at ht
              rw [valuesNamed_cons_of_mem hn₀]
              exact taken_cons.2 ⟨hd, a, ha, ht⟩
            · rw [(ho s hs he a).1] at ht
              rw [(ho s hs he a).2]
              exact ht
          · intro h
            have h₀ := h s₀ hs₀
            rw [valuesNamed_cons_of_mem hn₀] at h₀
            obtain ⟨hd, a, ha, ht⟩ := taken_cons.1 h₀
            refine ⟨hd, a, ha, ih.2 fun s hs => ?_⟩
            by_cases he : s = s₀
            · subst he
              rw [s.get_set]
              exact ht
            · rw [(ho s hs he a).1, ← (ho s hs he a).2]
              exact h s hs

theorem fills_nil {d d' : σ} {vs : List Json} : Fills [] d vs d' ↔ vs = [] ∧ d' = d := by
  constructor
  · intro h
    cases h
    exact ⟨rfl, rfl⟩
  · rintro ⟨rfl, rfl⟩
    exact .nil

theorem fills_cons {s : Slot σ} {ss : List (Slot σ)} {d d' : σ} {vs : List Json} :
    Fills (s :: ss) d vs d' ↔
      ∃ v vs' a, vs = v :: vs' ∧ s.accepts v a ∧ Fills ss (s.field.set d a) vs' d' := by
  constructor
  · intro h
    cases h with
    | cons ha hf => exact ⟨_, _, _, rfl, ha, hf⟩
  · rintro ⟨v, vs', a, rfl, ha, hf⟩
    exact .cons ha hf

end Names

end ContractLint.Json
