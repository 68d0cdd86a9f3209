import ContractLint.Json.Reader
import Mathlib.Data.List.Basic

namespace ContractLint.Json

variable {t r rest : List Char} {c : Char}

theorem bind_eq_ok {ε α β : Type} {x : Except ε α} {f : α → Except ε β} {b : β} :
    x >>= f = .ok b ↔ ∃ a, x = .ok a ∧ f a = .ok b := by
  cases x <;> simp [bind, Except.bind]

section Gaps

theorem skipGap_length_le (t : List Char) : (skipGap t).length ≤ t.length :=
  (List.dropWhile_sublist _).length_le

theorem skipGap_of_not_gap (h : isGap c = false) (t : List Char) : skipGap (c :: t) = c :: t := by
  simp [skipGap, h]

theorem isGap_of_skipGap (h : skipGap t = c :: r) : isGap c = false := by
  have hd := List.head?_dropWhile_not isGap t
  rw [skipGap] at h
  simpa [h] using hd

theorem skipGap_skipGap (t : List Char) : skipGap (skipGap t) = skipGap t := by
  cases h : skipGap t with
  | nil => rfl
  | cons c r => exact skipGap_of_not_gap (isGap_of_skipGap h) r

theorem length_of_skipGap (h : skipGap t = c :: r) : r.length < t.length := by
  have hl := skipGap_length_le t
  rw [h, List.length_cons] at hl
  omega

theorem skipGap_append (h : skipGap t = c :: r) (z : List Char) :
    skipGap (t ++ z) = c :: (r ++ z) := by
  rw [skipGap] at h
  simp [skipGap, List.dropWhile_append, h]

end Gaps

section Words

theorem length_of_readWord {w : List Char} (h : readWord w t = .ok rest) :
    rest.length ≤ t.length := by
  fun_induction readWord w t with
  | case1 t => exact Nat.le_of_eq (by cases h; rfl)
  | case3 ws c t ih => exact Nat.le_succ_of_le (ih h)
  | case2 | case4 => cases h

theorem readWord_append {w : List Char} (h : readWord w t = .ok rest) (z : List Char) :
    readWord w (t ++ z) = .ok (rest ++ z) := by
  fun_induction readWord w t with
  | case1 t =>
      cases h
      rfl
  | case3 ws c t ih => simpa [readWord] using ih h
  | case2 | case4 => cases h

theorem readWord_value {α : Type} {w : List Char} {a b : α}
    (h : (do return (a, ← readWord w t)) = (Except.ok (b, rest) : Except Fault (α × List Char))) :
    readWord w t = .ok rest ∧ b = a := by
  obtain ⟨u, hu, h⟩ := bind_eq_ok.1 h
  cases h
  exact ⟨hu, rfl⟩

end Words

section Strings

theorem prepend_eq_ok {x : Except Fault (List Char × List Char)} {cs : List Char} :
    prepend c x = .ok (cs, rest) ↔ ∃ ds, x = .ok (ds, rest) ∧ cs = c :: ds := by
  cases x with
  | error f => simp [prepend]
  | ok y =>
      obtain ⟨ds, q⟩ := y
      simp only [prepend, Except.ok.injEq, Prod.mk.injEq]
      constructor
      · rintro ⟨rfl, rfl⟩
        exact ⟨ds, ⟨rfl, rfl⟩, rfl⟩
      · rintro ⟨_, ⟨rfl, rfl⟩, rfl⟩
        exact ⟨rfl, rfl⟩

theorem skipString_of_readString {cs : List Char} (h : readString t = .ok (cs, rest)) :
    skipString t = .ok rest := by
  fun_induction readString t generalizing cs with
  | case2 r =>
      cases h
      rfl
  | case7 a b c d n hn hl hh e f g i w m hm hlow ih =>
      obtain ⟨ds, hr, -⟩ := prepend_eq_ok.1 h
      simp only [skipString, hn, hm, ih hr]
  | case14 a b c d s n hn hl hh ih =>
      obtain ⟨ds, hr, -⟩ := prepend_eq_ok.1 h
      simp only [skipString, hn, ih hr]
  | case16 c s hu hc e he ih =>
      obtain ⟨ds, hr, -⟩ := prepend_eq_ok.1 h
      simp only [skipString, he, ih hr]
  | case19 c r hq hb hc ih =>
      obtain ⟨ds, hr, -⟩ := prepend_eq_ok.1 h
      simp only [skipString, hc, ih hr, if_false, Bool.false_eq_true]
  | case1 | case3 | case4 | case5 | case6 | case8 | case9 | case10 | case11 | case12 | case13
  | case15 | case17 | case18 => cases h

theorem length_of_skipString (h : skipString t = .ok rest) : rest.length < t.length := by
  fun_induction skipString t with
  | case2 r =>
      cases h
      exact Nat.lt_succ_self _
  | case5 a b c d s n hn ih =>
      have hs := ih h
      simp only [List.length_cons]
      omega
  | case7 c s hu hc e he ih =>
      have hs := ih h
      simp only [List.length_cons]
      omega
  | case10 c r hq hb hc ih => exact Nat.lt_succ_of_lt (ih h)
  | case1 | case3 | case4 | case6 | case8 | case9 => cases h

theorem skipString_append (h : skipString t = .ok rest) (z : List Char) :
    skipString (t ++ z) = .ok (rest ++ z) := by
  fun_induction skipString t with
  | case2 r =>
      cases h
      rfl
  | case5 a b c d s n hn ih => simp only [List.cons_append, skipString, hn, ih h]
  | case7 c s _ hc e he ih =>
      have hu : ∀ i j k l w, c = 'u' → s ++ z = i :: j :: k :: l :: w → False :=
        fun _ _ _ _ _ h _ => hc h
      simp only [List.cons_append, skipString, he, ih h]
  | case10 c r hq hb hc ih =>
      simp only [List.cons_append, skipString, hc, ih h, if_false, Bool.false_eq_true]
  | case1 | case3 | case4 | case6 | case8 | case9 => cases h

def isPlain (c : Char) : Bool :=
  c != '"' && c != '\\' && !isControl c

theorem readString_plain {cs : List Char} (h : cs.all isPlain = true) (rest : List Char) :
    readString (cs ++ '"' :: rest) = .ok (cs, rest) := by
  induction cs with
  | nil => rfl
  | cons c cs ih =>
      simp only [List.all_cons, isPlain, Bool.and_eq_true, bne_iff_ne, Bool.not_eq_true'] at h
      obtain ⟨⟨⟨hq, hb⟩, hc⟩, hcs⟩ := h
      simp only [List.cons_append, readString, hc, Bool.false_eq_true, if_false, ih hcs, prepend]

end Strings

section Numbers

variable {negative : Bool} {significand : Nat} {start : Int} {v : Json}

theorem skipDigits_eq_ok :
    skipDigits t = .ok rest ↔ t.takeWhile isDigit ≠ [] ∧ t.dropWhile isDigit = rest := by
  cases t with
  | nil => simp [skipDigits]
  | cons c r => cases hc : isDigit c <;> simp [skipDigits, hc]

inductive IsNumber : Json → Prop where
  | int (n : Int) : IsNumber (.int n)
  | float (bits : UInt64) : IsNumber (.float bits)

theorem of_scaled {e : Int} (h : scaled negative significand e r = .ok (v, rest)) :
    r = rest ∧ ∃ bits, v = .float bits := by
  simp only [scaled] at h
  split at h <;> cases h
  exact ⟨rfl, _, rfl⟩

theorem of_readExponentDigits {down : Bool}
    (h : readExponentDigits negative significand start down t = .ok (v, rest)) :
    skipDigits t = .ok rest ∧ ∃ bits, v = .float bits := by
  cases t with
  | nil => cases h
  | cons c r =>
      simp only [readExponentDigits] at h
      split at h
      · cases h
      · next hc =>
          have hd : isDigit c = true := by simpa using hc
          have hr : (digitsOf (c :: r)).2 = rest ∧ ∃ bits, v = .float bits := by
            split at h
            · exact of_scaled h
            · split at h <;> cases h
              exact ⟨rfl, _, rfl⟩
          refine ⟨?_, hr.2⟩
          simp [skipDigits, hd, ← hr.1, digitsOf]

theorem of_readExponent (h : readExponent negative significand start t = .ok (v, rest)) :
    skipExponent t = .ok rest ∧ ∃ bits, v = .float bits := by
  unfold readExponent at h
  unfold skipExponent
  split at h <;> exact of_readExponentDigits h

theorem of_readFraction (h : readFraction negative significand start t = .ok (v, rest)) :
    skipFraction t = .ok rest ∧ ∃ bits, v = .float bits := by
  simp only [readFraction, digitsOf] at h
  split at h
  · cases h
  · cases h
  · next hd _ =>
      have hs : skipPower (t.dropWhile isDigit) = .ok rest ∧ ∃ bits, v = .float bits := by
        unfold skipPower
        split at h
        · exact of_readExponent h
        · exact of_readExponent h
        · obtain ⟨hr, hv⟩ := of_scaled h
          exact ⟨congrArg _ hr, hv⟩
      exact ⟨bind_eq_ok.2 ⟨_, skipDigits_eq_ok.2 ⟨hd, rfl⟩, hs.1⟩, hs.2⟩

theorem isNumber_wholeNumber : IsNumber (wholeNumber negative significand) := by
  unfold wholeNumber
  split
  · exact .int _
  · split
    · exact .float _
    · exact .int _

theorem of_tail {left : Nat}
    (h : readUnsigned.tail negative significand left t = .ok (v, rest)) :
    skipTail t = .ok rest ∧ IsNumber v := by
  unfold readUnsigned.tail at h
  split at h
  · obtain ⟨hs, bits, rfl⟩ := of_readFraction h
    exact ⟨hs, .float bits⟩
  · obtain ⟨hs, bits, rfl⟩ := of_readExponent h
    exact ⟨hs, .float bits⟩
  · obtain ⟨hs, bits, rfl⟩ := of_readExponent h
    exact ⟨hs, .float bits⟩
  · next h₁ h₂ h₃ =>
      have ht : skipTail t = .ok t := by simp only [skipTail, skipPower]
      split at h
      · cases h
        exact ⟨ht, isNumber_wholeNumber⟩
      · obtain ⟨hr, bits, rfl⟩ := of_scaled h
        exact ⟨ht.trans (congrArg _ hr), .float bits⟩

theorem of_readUnsigned (h : readUnsigned negative t = .ok (v, rest)) :
    skipUnsigned t = .ok rest ∧ IsNumber v := by
  have hs : ∀ {u significand left}, skipWhole t = .ok u →
      readUnsigned.tail negative significand left u = .ok (v, rest) →
      skipUnsigned t = .ok rest ∧ IsNumber v := fun hw ht =>
    ⟨bind_eq_ok.2 ⟨_, hw, (of_tail ht).1⟩, (of_tail ht).2⟩
  unfold readUnsigned at h
  split at h
  · cases h
  · split at h
    · split at h
      · cases h
      · next hc => exact hs (by simp [skipWhole, hc]) h
    · exact hs rfl h
  · next c r h0 =>
      split at h
      · cases h
      · next hc =>
          have hd : isDigit c = true := by simpa using hc
          have hw : skipWhole (c :: r) = .ok ((c :: r).dropWhile isDigit) := by
            have hz : ∀ a w, c :: r = '0' :: a :: w → False :=
              fun _ _ he => h0 (List.cons.inj he).1
            simp only [skipWhole]
            exact skipDigits_eq_ok.2 ⟨by simp [hd], rfl⟩
          exact hs hw h

theorem of_readNumber (h : readNumber t = .ok (v, rest)) :
    skipNumber t = .ok rest ∧ IsNumber v := by
  unfold readNumber at h
  unfold skipNumber
  split at h <;> exact of_readUnsigned h

theorem length_of_skipDigits (h : skipDigits t = .ok rest) : rest.length < t.length := by
  cases t with
  | nil => cases h
  | cons c r =>
      simp only [skipDigits] at h
      split at h <;> cases h
      exact Nat.lt_succ_of_le (List.dropWhile_sublist _).length_le

theorem length_of_skipExponent (h : skipExponent t = .ok rest) : rest.length < t.length := by
  unfold skipExponent at h
  split at h
  · exact Nat.lt_succ_of_lt (length_of_skipDigits h)
  · exact Nat.lt_succ_of_lt (length_of_skipDigits h)
  · exact length_of_skipDigits h

theorem length_of_skipPower (h : skipPower t = .ok rest) : rest.length ≤ t.length := by
  unfold skipPower at h
  split at h
  · exact Nat.le_of_lt (Nat.lt_succ_of_lt (length_of_skipExponent h))
  · exact Nat.le_of_lt (Nat.lt_succ_of_lt (length_of_skipExponent h))
  · cases h
    exact Nat.le_refl _

theorem length_of_skipTail (h : skipTail t = .ok rest) : rest.length ≤ t.length := by
  unfold skipTail at h
  split at h
  · obtain ⟨u, hu, hr⟩ := bind_eq_ok.1 h
    have hd := length_of_skipDigits hu
    have hp := length_of_skipPower hr
    simp only [List.length_cons]
    omega
  · exact length_of_skipPower h

theorem length_of_skipWhole (h : skipWhole t = .ok rest) : rest.length < t.length := by
  unfold skipWhole at h
  split at h
  · split at h <;> cases h
    exact Nat.lt_succ_self _
  · exact length_of_skipDigits h

theorem length_of_skipNumber (h : skipNumber t = .ok rest) : rest.length < t.length := by
  have hu : ∀ {u}, skipUnsigned u = .ok rest → rest.length < u.length := by
    intro u hu
    obtain ⟨w, hw, hr⟩ := bind_eq_ok.1 hu
    exact Nat.lt_of_le_of_lt (length_of_skipTail hr) (length_of_skipWhole hw)
  unfold skipNumber at h
  split at h
  · exact Nat.lt_succ_of_lt (hu h)
  · exact hu h

section Append

variable {z : List Char}

theorem skipDigits_append (h : skipDigits t = .ok rest) :
    skipDigits (t ++ '\x7d' :: z) = .ok (rest ++ '\x7d' :: z) := by
  cases t with
  | nil => cases h
  | cons d r =>
      simp only [skipDigits] at h
      split at h <;> cases h
      next hr =>
        simp only [List.cons_append, skipDigits, hr, if_true, List.dropWhile_append]
        split
        · next he => simp [List.isEmpty_iff.1 he, isDigit]
        · rfl

theorem not_starts_append {a : Char} (ha : a ≠ '\x7d') (h : ∀ r, t = a :: r → False)
    (u : List Char) : t ++ '\x7d' :: z = a :: u → False := by
  intro hu
  cases t with
  | nil => exact ha (List.cons.inj hu).1.symm
  | cons d r => exact h r (by rw [(List.cons.inj hu).1])

theorem skipExponent_append (h : skipExponent t = .ok rest) :
    skipExponent (t ++ '\x7d' :: z) = .ok (rest ++ '\x7d' :: z) := by
  unfold skipExponent at h
  split at h
  · exact skipDigits_append h
  · exact skipDigits_append h
  · next hp hm =>
      have hp' := not_starts_append (z := z) (by decide) hp
      have hm' := not_starts_append (z := z) (by decide) hm
      simp only [skipExponent, skipDigits_append h]

theorem skipPower_append (h : skipPower t = .ok rest) :
    skipPower (t ++ '\x7d' :: z) = .ok (rest ++ '\x7d' :: z) := by
  unfold skipPower at h
  split at h
  · exact skipExponent_append h
  · exact skipExponent_append h
  · next he hE =>
      cases h
      have he' := not_starts_append (z := z) (by decide) he
      have hE' := not_starts_append (z := z) (by decide) hE
      simp only [skipPower]

theorem skipTail_append (h : skipTail t = .ok rest) :
    skipTail (t ++ '\x7d' :: z) = .ok (rest ++ '\x7d' :: z) := by
  unfold skipTail at h
  split at h
  · obtain ⟨u, hu, hr⟩ := bind_eq_ok.1 h
    exact bind_eq_ok.2 ⟨_, skipDigits_append hu, skipPower_append hr⟩
  · next hp =>
      have hp' := not_starts_append (z := z) (by decide) hp
      simp only [skipTail, skipPower_append h]

theorem skipWhole_append (h : skipWhole t = .ok rest) :
    skipWhole (t ++ '\x7d' :: z) = .ok (rest ++ '\x7d' :: z) := by
  unfold skipWhole at h
  split at h
  · next c r =>
      split at h <;> cases h
      next hc => simp [skipWhole, hc]
  · next hw =>
      -- Behind a zero at the end the brace is looked at; other digits are only read to their end.
      by_cases hz : t = ['0']
      · subst hz
        cases h
        simp [skipWhole, isDigit]
      · have hw' : ∀ c r, t ++ '\x7d' :: z = '0' :: c :: r → False := by
          intro c r he
          cases t with
          | nil => simp at he
          | cons d u =>
              cases u with
              | nil => exact hz (by rw [(List.cons.inj he).1])
              | cons e u => exact hw e u (by rw [(List.cons.inj he).1])
        simp only [skipWhole, skipDigits_append h]

theorem skipUnsigned_append (h : skipUnsigned t = .ok rest) :
    skipUnsigned (t ++ '\x7d' :: z) = .ok (rest ++ '\x7d' :: z) := by
  obtain ⟨u, hu, hr⟩ := bind_eq_ok.1 h
  exact bind_eq_ok.2 ⟨_, skipWhole_append hu, skipTail_append hr⟩

theorem skipNumber_append (h : skipNumber t = .ok rest) :
    skipNumber (t ++ '\x7d' :: z) = .ok (rest ++ '\x7d' :: z) := by
  unfold skipNumber at h
  split at h
  · exact skipUnsigned_append h
  · next hm =>
      have hm' := not_starts_append (z := z) (by decide) hm
      simp only [skipNumber, skipUnsigned_append h]

end Append

end Numbers

end ContractLint.Json
