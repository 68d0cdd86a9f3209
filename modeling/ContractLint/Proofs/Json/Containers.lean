import ContractLint.Proofs.Json.Scalars

namespace ContractLint.Json

variable {α β σ : Type} {mode : Mode} {item : Reader α} {t rest : List Char}

section Lists

structure ReadsValue (item : Reader α) : Prop where
  consumes : ∀ {t a rest}, item t = .ok (a, rest) → rest.length < t.length
  opens : ∀ {t a rest}, item t = .ok (a, rest) → ∃ c r, skipGap t = c :: r ∧ c ≠ ']'

inductive Items (item : Reader α) : List Char → List α → List Char → Prop where
  | close {t rest : List Char} : skipGap t = ']' :: rest → Items item t [] rest
  | next {t r t' rest : List Char} {a : α} {as : List α} :
      skipGap t = ',' :: r → item (skipGap r) = .ok (a, t') → Items item t' as rest →
        Items item t (a :: as) rest

inductive Listed (item : Reader α) : List Char → List α → List Char → Prop where
  | empty {t rest : List Char} : skipGap t = ']' :: rest → Listed item t [] rest
  | items {t t' rest : List Char} {a : α} {as : List α} :
      item (skipGap t) = .ok (a, t') → Items item t' as rest → Listed item t (a :: as) rest

theorem items_of_readItemsFrom {fuel : Nat} {as : List α}
    (h : readItemsFrom mode item fuel t = .ok (as, rest)) :
    ∃ a t' as', as = a :: as' ∧ item t = .ok (a, t') ∧ Items item t' as' rest := by
  induction fuel generalizing t as with
  | zero => cases h
  | succ fuel ih =>
      obtain ⟨⟨a, t'⟩, ha, h⟩ := bind_eq_ok.1 h
      dsimp only at h
      split at h
      · cases h
      · next hs =>
          cases h
          exact ⟨a, t', [], rfl, ha, .close hs⟩
      · next r hs =>
          split at h
          · cases h
          · cases h
          · obtain ⟨⟨as', u⟩, hf, h⟩ := bind_eq_ok.1 h
            cases h
            obtain ⟨b, v, bs, rfl, hb, hr⟩ := ih hf
            exact ⟨a, t', _, rfl, ha, .next hs hb hr⟩
      · cases h

theorem readItemsFrom_of_items (hv : ReadsValue item) {fuel : Nat} {a : α} {as : List α}
    {t' : List Char} (ha : item t = .ok (a, t')) (hi : Items item t' as rest)
    (hf : t.length ≤ fuel) : readItemsFrom mode item fuel t = .ok (a :: as, rest) := by
  induction hi generalizing t a fuel with
  | close hs =>
      cases fuel with
      | zero => exact absurd (hv.consumes ha) (by omega)
      | succ fuel => simp [readItemsFrom, ha, bind, Except.bind, hs]
  | @next t' r u rest b bs hs hb _ ih =>
      cases fuel with
      | zero => exact absurd (hv.consumes ha) (by omega)
      | succ fuel =>
          have hl := length_of_skipGap hs
          have hc := hv.consumes ha
          have hg := skipGap_length_le r
          have hr : readItemsFrom mode item fuel (skipGap r) = .ok (b :: bs, rest) :=
            ih hb (by omega)
          obtain ⟨c, q, hq, hne⟩ := hv.opens hb
          rw [skipGap_skipGap] at hq
          simp only [readItemsFrom, ha, bind, Except.bind, hs]
          split
          · next h => cases hq.symm.trans h
          · next h =>
              cases hq.symm.trans h
              exact absurd rfl hne
          · rw [hr]
            rfl

theorem readItems_iff (hv : ReadsValue item) {as : List α} :
    readItems mode item t = .ok (as, rest) ↔ Listed item t as rest := by
  constructor
  · intro h
    simp only [readItems] at h
    split at h
    · cases h
    · next hs =>
        cases h
        exact .empty hs
    · obtain ⟨a, t', as', rfl, ha, hi⟩ := items_of_readItemsFrom h
      exact .items ha hi
  · intro h
    cases h with
    | empty hs => simp only [readItems, hs]
    | items ha hi =>
        have hf := @readItemsFrom_of_items _ mode _ _ _ hv _ _ _ _ ha hi (Nat.le_refl _)
        obtain ⟨c, q, hq, hne⟩ := hv.opens ha
        rw [skipGap_skipGap] at hq
        simp only [readItems]
        split
        · next h => cases hq.symm.trans h
        · next h =>
            cases hq.symm.trans h
            exact absurd rfl hne
        · exact hf

theorem Items.length_lt (hv : ReadsValue item) {as : List α} (h : Items item t as rest) :
    rest.length < t.length := by
  induction h with
  | close hs => exact length_of_skipGap hs
  | @next t r u rest a as hs ha _ ih =>
      have hr := length_of_skipGap hs
      have hg := skipGap_length_le r
      have hu := hv.consumes ha
      omega

theorem Listed.length_lt (hv : ReadsValue item) {as : List α} (h : Listed item t as rest) :
    rest.length < t.length := by
  cases h with
  | empty hs => exact length_of_skipGap hs
  | items ha hi =>
      have hg := skipGap_length_le t
      have hu := hv.consumes ha
      have hr := hi.length_lt hv
      omega

def Carries (item : Reader α) (item' : Reader β) (z : List Char) (length : Nat) : Prop :=
  ∀ ⦃u a v⦄, u.length ≤ length → item u = .ok (a, v) → ∃ b, item' (u ++ z) = .ok (b, v ++ z)

theorem ReadsValue.skipGap_append (hv : ReadsValue item) {a : α} {u : List Char}
    (ha : item (skipGap t) = .ok (a, u)) (z : List Char) :
    skipGap (t ++ z) = skipGap t ++ z := by
  obtain ⟨c, q, hq, -⟩ := hv.opens ha
  rw [skipGap_skipGap] at hq
  rw [Json.skipGap_append hq, hq, List.cons_append]

theorem Items.extend (hv : ReadsValue item) {item' : Reader β} {z : List Char} {length : Nat}
    (hc : Carries item item' z length) {as : List α} (h : Items item t as rest)
    (hl : t.length ≤ length) : ∃ bs, Items item' (t ++ z) bs (rest ++ z) := by
  induction h with
  | close hs => exact ⟨[], .close (skipGap_append hs z)⟩
  | @next t r u rest a as hs ha _ ih =>
      have hr := length_of_skipGap hs
      have hg := skipGap_length_le r
      have hu := hv.consumes ha
      obtain ⟨bs, hi⟩ := ih (by omega)
      obtain ⟨b, hb⟩ := hc (by omega) ha
      rw [← hv.skipGap_append ha] at hb
      exact ⟨b :: bs, .next (skipGap_append hs z) hb hi⟩

theorem Listed.extend (hv : ReadsValue item) {item' : Reader β} {z : List Char} {length : Nat}
    (hc : Carries item item' z length) {as : List α} (h : Listed item t as rest)
    (hl : t.length ≤ length) : ∃ bs, Listed item' (t ++ z) bs (rest ++ z) := by
  cases h with
  | empty hs => exact ⟨[], .empty (skipGap_append hs z)⟩
  | items ha hi =>
      have hg := skipGap_length_le t
      have hu := hv.consumes ha
      obtain ⟨bs, hi⟩ := hi.extend hv hc (by omega)
      obtain ⟨b, hb⟩ := hc (by omega) ha
      rw [← hv.skipGap_append ha] at hb
      exact ⟨_ :: bs, .items hb hi⟩

end Lists

section Objects

variable {member : σ → String → Reader σ}

theorem skipString_of_readName {name : String} (h : readName mode t = .ok (name, rest)) :
    skipString t = .ok rest := by
  cases mode with
  | keep =>
      obtain ⟨⟨cs, u⟩, hs, h⟩ := bind_eq_ok.1 h
      cases h
      exact skipString_of_readString hs
  | skip =>
      obtain ⟨u, hs, h⟩ := bind_eq_ok.1 h
      cases h
      exact hs

theorem length_of_readName {name : String} (h : readName mode t = .ok (name, rest)) :
    rest.length < t.length :=
  length_of_skipString (skipString_of_readName h)

theorem readName_append {name : String} (h : readName mode t = .ok (name, rest))
    (z : List Char) : readName .skip (t ++ z) = .ok ("", rest ++ z) :=
  bind_eq_ok.2 ⟨_, skipString_append (skipString_of_readName h) z, rfl⟩

theorem skipGap_of_readColon (h : readColon t = .ok rest) : skipGap t = ':' :: rest := by
  simp only [readColon] at h
  split at h
  · cases h
  · next hs =>
      cases h
      exact hs
  · cases h

theorem readColon_append (h : readColon t = .ok rest) (z : List Char) :
    readColon (t ++ z) = .ok (rest ++ z) := by
  simp only [readColon, skipGap_append (skipGap_of_readColon h) z]

def Shortens (member : σ → String → Reader σ) : Prop :=
  ∀ ⦃s name t s' rest⦄, member s name t = .ok (s', rest) → rest.length ≤ t.length

inductive Members (mode : Mode) (member : σ → String → Reader σ) :
    σ → List Char → σ → List Char → Prop where
  | last {s s' : σ} {name : String} {t u v rest : List Char} :
      readName mode t = .ok (name, u) → member s name u = .ok (s', v) →
        skipGap v = '\x7d' :: rest → Members mode member s t s' rest
  | more {s s' s'' : σ} {name : String} {t u v w x rest : List Char} :
      readName mode t = .ok (name, u) → member s name u = .ok (s', v) →
        skipGap v = ',' :: w → skipGap w = '"' :: x → Members mode member s' x s'' rest →
        Members mode member s t s'' rest

inductive Gathered (mode : Mode) (member : σ → String → Reader σ) :
    σ → List Char → σ → List Char → Prop where
  | empty {s : σ} {t rest : List Char} :
      skipGap t = '\x7d' :: rest → Gathered mode member s t s rest
  | members {s s' : σ} {t u rest : List Char} :
      skipGap t = '"' :: u → Members mode member s u s' rest → Gathered mode member s t s' rest

theorem members_of_readMembersFrom {fuel : Nat} {s s' : σ}
    (h : readMembersFrom mode member fuel s t = .ok (s', rest)) :
    Members mode member s t s' rest := by
  induction fuel generalizing s t with
  | zero => cases h
  | succ fuel ih =>
      obtain ⟨⟨name, u⟩, hn, h⟩ := bind_eq_ok.1 h
      obtain ⟨⟨s₁, v⟩, hm, h⟩ := bind_eq_ok.1 h
      dsimp only at h
      split at h
      · cases h
      · next hs =>
          cases h
          exact .last hn hm hs
      · next w hs =>
          split at h
          · exact .more hn hm hs (by assumption) (ih h)
          · cases h
          · cases h
          · cases h
          · cases h
      · cases h

theorem readMembersFrom_of_members (hv : Shortens member) {fuel : Nat} {s s' : σ}
    (h : Members mode member s t s' rest) (hf : t.length ≤ fuel) :
    readMembersFrom mode member fuel s t = .ok (s', rest) := by
  induction h generalizing fuel with
  | @last s s' name t u v rest hn hm hs =>
      cases fuel with
      | zero => exact absurd (length_of_readName hn) (by omega)
      | succ fuel => simp [readMembersFrom, hn, hm, hs, bind, Except.bind]
  | @more s s' s'' name t u v w x rest hn hm hs hx _ ih =>
      have hu := length_of_readName hn
      have hl := hv hm
      have hw := length_of_skipGap hs
      have hg := length_of_skipGap hx
      cases fuel with
      | zero => omega
      | succ fuel =>
          have hr : readMembersFrom mode member fuel s' x = .ok (s'', rest) := ih (by omega)
          cases mode <;> simp [readMembersFrom, hn, hm, hs, hx, hr, bind, Except.bind]

theorem readMembers_iff (hv : Shortens member) {s s' : σ} :
    readMembers mode member s t = .ok (s', rest) ↔ Gathered mode member s t s' rest := by
  constructor
  · intro h
    simp only [readMembers] at h
    split at h
    · cases h
    · next hs =>
        cases h
        exact .empty hs
    · next hs => exact .members hs (members_of_readMembersFrom h)
    · cases h
  · intro h
    cases h with
    | empty hs => simp only [readMembers, hs]
    | members hs hm =>
        simp only [readMembers, hs]
        exact readMembersFrom_of_members hv hm (Nat.le_succ _)

theorem Members.length_lt (hv : Shortens member) {s s' : σ}
    (h : Members mode member s t s' rest) : rest.length < t.length := by
  induction h with
  | @last s s' name t u v rest hn hm hs =>
      have hu := length_of_readName hn
      have hl := hv hm
      have hr := length_of_skipGap hs
      omega
  | @more s s' s'' name t u v w x rest hn hm hs hx _ ih =>
      have hu := length_of_readName hn
      have hl := hv hm
      have hw := length_of_skipGap hs
      have hg := length_of_skipGap hx
      omega

theorem Gathered.length_lt (hv : Shortens member) {s s' : σ}
    (h : Gathered mode member s t s' rest) : rest.length < t.length := by
  cases h with
  | empty hs => exact length_of_skipGap hs
  | members hs hm => exact Nat.lt_trans (hm.length_lt hv) (length_of_skipGap hs)

def CarriesMembers (member : σ → String → Reader σ) (member' : Unit → String → Reader Unit)
    (z : List Char) (length : Nat) : Prop :=
  ∀ ⦃s name u s' v⦄, u.length ≤ length → member s name u = .ok (s', v) →
    member' () "" (u ++ z) = .ok ((), v ++ z)

theorem Members.extend (hv : Shortens member) {member' : Unit → String → Reader Unit}
    {z : List Char} {length : Nat} (hc : CarriesMembers member member' z length) {s s' : σ}
    (h : Members mode member s t s' rest) (hl : t.length ≤ length) :
    Members .skip member' () (t ++ z) () (rest ++ z) := by
  induction h with
  | @last s s' name t u v rest hn hm hs =>
      have hu := length_of_readName hn
      exact .last (readName_append hn z) (hc (by omega) hm) (skipGap_append hs z)
  | @more s s' s'' name t u v w x rest hn hm hs hx _ ih =>
      have hu := length_of_readName hn
      have hl := hv hm
      have hw := length_of_skipGap hs
      have hg := length_of_skipGap hx
      exact .more (readName_append hn z) (hc (by omega) hm) (skipGap_append hs z)
        (skipGap_append hx z) (ih (by omega))

theorem Gathered.extend (hv : Shortens member) {member' : Unit → String → Reader Unit}
    {z : List Char} {length : Nat} (hc : CarriesMembers member member' z length) {s s' : σ}
    (h : Gathered mode member s t s' rest) (hl : t.length ≤ length) :
    Gathered .skip member' () (t ++ z) () (rest ++ z) := by
  cases h with
  | empty hs => exact .empty (skipGap_append hs z)
  | members hs hm =>
      have hu := length_of_skipGap hs
      exact .members (skipGap_append hs z) (hm.extend hv hc (by omega))

end Objects

end ContractLint.Json
