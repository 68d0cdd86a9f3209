import ContractLint.Proofs.Json.Skipping
import Mathlib.Data.List.Forall2

namespace ContractLint.Json

variable {α σ : Type} {n : Nat} {t r rest : List Char} {v : Json}

section Values

inductive Plain : Json → Prop where
  | null : Plain .null
  | bool (b : Bool) : Plain (.bool b)
  | number {v : Json} : IsNumber v → Plain v

inductive Shows : Nat → List Char → Json → List Char → Prop where
  | list {n : Nat} {t r rest : List Char} {vs : List Json} :
      skipGap t = '[' :: r → Listed (readValue n) r vs rest → Shows (n + 1) t (.arr vs) rest
  | object {n : Nat} {t r rest : List Char} {ms : List (String × Json)} :
      skipGap t = '\x7b' :: r → Gathered .keep (keepMember (readValue n)) [] r ms rest →
        Shows (n + 1) t (.obj ms) rest
  | text {n : Nat} {t r rest cs : List Char} :
      skipGap t = '"' :: r → readString r = .ok (cs, rest) →
        Shows n t (.str (String.ofList cs)) rest
  | plain {n : Nat} {t rest : List Char} {v : Json} :
      (∀ r, skipGap t ≠ '[' :: r) → (∀ r, skipGap t ≠ '\x7b' :: r) →
        (∀ r, skipGap t ≠ '"' :: r) → Plain v → Shows n t v rest

theorem shows_of_readScalar (h₁ : ∀ r, skipGap t ≠ '[' :: r) (h₂ : ∀ r, skipGap t ≠ '\x7b' :: r)
    (h : readScalar (skipGap t) = .ok (v, rest)) : Shows n t v rest := by
  unfold readScalar at h
  split at h
  · cases h
  · next hs =>
      obtain ⟨-, rfl⟩ := readWord_value h
      exact .plain h₁ h₂ (by simp [hs]) .null
  · next hs =>
      obtain ⟨-, rfl⟩ := readWord_value h
      exact .plain h₁ h₂ (by simp [hs]) (.bool _)
  · next hs =>
      obtain ⟨-, rfl⟩ := readWord_value h
      exact .plain h₁ h₂ (by simp [hs]) (.bool _)
  · next hs =>
      obtain ⟨⟨cs, u⟩, hr, h⟩ := bind_eq_ok.1 h
      cases h
      exact .text hs hr
  · next hq hs =>
      split at h
      · refine .plain h₁ h₂ (fun r he => ?_) (.number (of_readNumber h).2)
        exact hq (List.cons.inj (hs.symm.trans he)).1
      · cases h

theorem shows_of_readValue (h : readValue n t = .ok (v, rest)) : Shows n t v rest := by
  cases n with
  | zero =>
      unfold readValue readValueWith at h
      dsimp only at h
      split at h
      · cases h
      · cases h
      · next h₁ h₂ => exact shows_of_readScalar h₁ h₂ h
  | succ n =>
      unfold readValue readValueWith at h
      dsimp only at h
      split at h
      · next r hs =>
          obtain ⟨⟨vs, u⟩, hr, h⟩ := bind_eq_ok.1 h
          cases h
          exact .list hs ((readItems_iff (skips_readValue n).readsValue).1 hr)
      · next r hs =>
          obtain ⟨⟨ms, u⟩, hr, h⟩ := bind_eq_ok.1 h
          cases h
          have hm := skipsMember_keepMember (skips_readValue n)
          exact .object hs ((readMembers_iff hm.shortens).1 hr)
      · next h₁ h₂ => exact shows_of_readScalar h₁ h₂ h

def Decodes (reader : Nat → Reader α) (accepts : Json → α → Prop) : Prop :=
  ∀ ⦃n t v rest⦄, readValue n t = .ok (v, rest) →
    ∀ a q, reader n t = .ok (a, q) ↔ accepts v a ∧ q = rest

theorem decodes_readText : Decodes (fun _ => readText) (fun v s => v = .str s) := by
  intro n t v rest h s q
  rw [readText_eq_ok]
  cases shows_of_readValue h with
  | list hs _ => simp [hs]
  | object hs _ => simp [hs]
  | text hs hr =>
      constructor
      · rintro ⟨r', cs', hs', hr', rfl⟩
        obtain rfl := (List.cons.inj (hs.symm.trans hs')).2
        cases hr.symm.trans hr'
        exact ⟨rfl, rfl⟩
      · rintro ⟨hv, rfl⟩
        exact ⟨_, _, hs, hr, (Json.str.inj hv).symm⟩
  | plain _ _ hq hp =>
      constructor
      · rintro ⟨r, _, hs, _⟩
        exact absurd hs (hq r)
      · rintro ⟨rfl, -⟩
        cases hp with
        | number hn => cases hn

end Values

section Sequences

variable {item : Nat → Reader α} {accepts : Json → α → Prop} {vs : List Json}

theorem items_iff (hd : Decodes item accepts) (h : Items (readValue n) t vs rest) (as : List α)
    (q : List Char) :
    Items (item n) t as q ↔ List.Forall₂ accepts vs as ∧ q = rest := by
  induction h generalizing as with
  | close hs =>
      constructor
      · intro h
        cases h with
        | close hs' => exact ⟨.nil, (List.cons.inj (hs'.symm.trans hs)).2⟩
        | next hs' => simp [hs] at hs'
      · rintro ⟨hf, rfl⟩
        cases hf
        exact .close hs
  | @next t r u rest v vs hs hv _ ih =>
      constructor
      · intro h
        cases h with
        | close hs' => simp [hs] at hs'
        | next hs' ha hi =>
            obtain rfl := (List.cons.inj (hs'.symm.trans hs)).2
            obtain ⟨ha, rfl⟩ := (hd hv _ _).1 ha
            obtain ⟨hf, rfl⟩ := (ih _).1 hi
            exact ⟨.cons ha hf, rfl⟩
      · rintro ⟨hf, rfl⟩
        cases hf with
        | cons ha hf => exact .next hs ((hd hv _ _).2 ⟨ha, rfl⟩) ((ih _).2 ⟨hf, rfl⟩)

theorem listed_iff (hi : ∀ n, Skips (item n)) (hd : Decodes item accepts)
    (h : Listed (readValue n) t vs rest) (as : List α) (q : List Char) :
    Listed (item n) t as q ↔ List.Forall₂ accepts vs as ∧ q = rest := by
  cases h with
  | empty hs =>
      constructor
      · intro h
        cases h with
        | empty hs' => exact ⟨.nil, (List.cons.inj (hs'.symm.trans hs)).2⟩
        | items ha _ =>
            obtain ⟨c, r, hs', hc⟩ := (hi n).readsValue.opens ha
            rw [skipGap_skipGap, hs] at hs'
            exact absurd (List.cons.inj hs').1.symm hc
      · rintro ⟨hf, rfl⟩
        cases hf
        exact .empty hs
  | items hv hvs =>
      constructor
      · intro h
        cases h with
        | empty hs' =>
            obtain ⟨c, r, hs, hc⟩ := (skips_readValue n).readsValue.opens hv
            rw [skipGap_skipGap, hs'] at hs
            exact absurd (List.cons.inj hs).1.symm hc
        | items ha hi =>
            obtain ⟨ha, rfl⟩ := (hd hv _ _).1 ha
            obtain ⟨hf, rfl⟩ := (items_iff hd hvs _ _).1 hi
            exact ⟨.cons ha hf, rfl⟩
      · rintro ⟨hf, rfl⟩
        cases hf with
        | cons ha hf =>
            exact .items ((hd hv _ _).2 ⟨ha, rfl⟩) ((items_iff hd hvs _ _).2 ⟨hf, rfl⟩)

theorem decodes_readSequence (hi : ∀ n, Skips (item n)) (hd : Decodes item accepts) :
    Decodes (readSequence item) fun v as => ∃ vs, v = .arr vs ∧ List.Forall₂ accepts vs as := by
  intro n t v rest h as q
  rw [readSequence_eq_ok]
  cases shows_of_readValue h with
  | @list n _ r _ vs hs hl =>
      have hl := listed_iff hi hd hl as q
      constructor
      · rintro ⟨m, r', hm, hs', h⟩
        obtain rfl := Nat.succ.inj hm
        obtain rfl := (List.cons.inj (hs.symm.trans hs')).2
        obtain ⟨hf, rfl⟩ := hl.1 ((readItems_iff (hi n).readsValue).1 h)
        exact ⟨⟨vs, rfl, hf⟩, rfl⟩
      · rintro ⟨⟨vs', hv, hf⟩, rfl⟩
        cases hv
        exact ⟨n, r, rfl, hs, (readItems_iff (hi n).readsValue).2 (hl.2 ⟨hf, rfl⟩)⟩
  | object hs _ => simp [hs]
  | text hs _ => simp [hs]
  | plain hl _ _ hp =>
      constructor
      · rintro ⟨_, r, _, hs, _⟩
        exact absurd hs (hl r)
      · rintro ⟨⟨vs, rfl, -⟩, -⟩
        cases hp with
        | number hn => cases hn

end Sequences

end ContractLint.Json
