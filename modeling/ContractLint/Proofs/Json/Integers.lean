import ContractLint.Proofs.Json.Scalars

namespace ContractLint.Json

variable {ds cs t r rest : List Char} {c d : Char} {n : Int} {negative : Bool} {significand : Nat}

section Digits

structure Digits (ds : List Char) : Prop where
  nonempty : ds ≠ []
  digits : ∀ d ∈ ds, d.isDigit = true

def decimal (ds : List Char) : Nat :=
  Nat.ofDigitChars 10 ds 0

theorem isDigit_eq (c : Char) : isDigit c = c.isDigit := by
  simp [isDigit, Char.isDigit, Char.le_def]

theorem Digits.all (h : Digits ds) : ∀ d ∈ ds, isDigit d = true := by
  intro d hd
  rw [isDigit_eq, h.digits d hd]

theorem le_ofDigitChars (ds : List Char) (start : Nat) : start ≤ Nat.ofDigitChars 10 ds start := by
  rw [Nat.ofDigitChars_eq_ofDigitChars_zero]
  exact Nat.le_add_right_of_le (Nat.le_mul_of_pos_left start (Nat.pow_pos (by decide)))

theorem decimal_pos (hd : d.isDigit = true) (h : d ≠ '0') (ds : List Char) :
    0 < decimal (d :: ds) := by
  have hz : '0'.toNat < d.toNat := by
    have hn : d.toNat ≠ '0'.toNat := fun he => h (Char.toNat_inj.1 he)
    have hl : '0'.toNat ≤ d.toNat := by
      simp only [Char.isDigit, Bool.and_eq_true, decide_eq_true_eq] at hd
      exact hd.1
    omega
  rw [decimal, Nat.ofDigitChars_cons]
  exact Nat.lt_of_lt_of_le (by omega) (le_ofDigitChars ds _)

theorem ofDigitChars_cons (d : Char) (ds : List Char) (start : Nat) :
    Nat.ofDigitChars 10 (d :: ds) start = Nat.ofDigitChars 10 ds (start * 10 + digitValue d) := by
  rw [Nat.ofDigitChars_cons, Nat.mul_comm, digitValue]

theorem absorb_of_le (h : Nat.ofDigitChars 10 ds significand ≤ maxSignificand) :
    absorb significand ds = (Nat.ofDigitChars 10 ds significand, ds.length, 0) := by
  induction ds generalizing significand with
  | nil => rfl
  | cons d ds ih =>
      rw [ofDigitChars_cons] at h ⊢
      have hl : ¬ maxSignificand < significand * 10 + digitValue d :=
        Nat.not_lt.2 (Nat.le_trans (le_ofDigitChars ds _) h)
      simp only [absorb, if_neg hl, ih h, List.length_cons]

theorem absorb_of_lt (hs : significand ≤ maxSignificand)
    (h : maxSignificand < Nat.ofDigitChars 10 ds significand) :
    (absorb significand ds).2.2 ≠ 0 := by
  induction ds generalizing significand with
  | nil => exact absurd h (Nat.not_lt.2 hs)
  | cons d ds ih =>
      rw [ofDigitChars_cons] at h
      simp only [absorb]
      split
      · exact Nat.succ_ne_zero _
      · next hl => exact ih (Nat.not_lt.1 hl) h

end Digits

section Literals

structure WholeDigits (ds : List Char) : Prop extends Digits ds where
  alone : ds.head? = some '0' → ds = ['0']

inductive IntegerLiteral : List Char → Int → Prop where
  | unsigned {ds : List Char} : WholeDigits ds → IntegerLiteral ds (decimal ds)
  | negative {ds : List Char} :
      WholeDigits ds → ds ≠ ['0'] → IntegerLiteral ('-' :: ds) (-(decimal ds : Int))

structure Stops (t : List Char) : Prop where
  digit : ∀ c ∈ t.head?, c.isDigit = false
  mark : ∀ c ∈ t.head?, c ≠ '.' ∧ c ≠ 'e' ∧ c ≠ 'E'

theorem wholeDigits_zero : WholeDigits ['0'] where
  nonempty := List.cons_ne_nil '0' []
  digits := List.forall_mem_singleton.2 rfl
  alone := fun _ => rfl

theorem decimal_eq_zero_iff (h : WholeDigits ds) : decimal ds = 0 ↔ ds = ['0'] := by
  constructor
  · intro hz
    obtain ⟨d, ds', rfl⟩ := List.exists_cons_of_ne_nil h.nonempty
    by_cases hd : d = '0'
    · exact h.alone (congrArg some hd)
    · have hp := decimal_pos (h.digits d List.mem_cons_self) hd ds'
      omega
  · rintro rfl
    rfl

theorem digitsOf_append (h : Digits ds) (hr : ∀ c ∈ rest.head?, c.isDigit = false) :
    digitsOf (ds ++ rest) = (ds, rest) := by
  have ht : rest.takeWhile isDigit = [] ∧ rest.dropWhile isDigit = rest := by
    cases rest with
    | nil => exact ⟨rfl, rfl⟩
    | cons c rest =>
        have hc : isDigit c = false := (isDigit_eq c).trans (hr c rfl)
        simp [hc]
  rw [digitsOf, List.takeWhile_append_of_pos h.all, List.dropWhile_append_of_pos h.all, ht.1, ht.2,
    List.append_nil]

theorem tail_eq_int_iff {left : Nat} :
    readUnsigned.tail negative significand left t = .ok (.int n, rest) ↔
      t = rest ∧ left = 0 ∧ wholeNumber negative significand = .int n ∧
        ∀ c ∈ rest.head?, c ≠ '.' ∧ c ≠ 'e' ∧ c ≠ 'E' := by
  constructor
  · intro h
    unfold readUnsigned.tail at h
    split at h
    · obtain ⟨-, bits, hv⟩ := of_readFraction h
      cases hv
    · obtain ⟨-, bits, hv⟩ := of_readExponent h
      cases hv
    · obtain ⟨-, bits, hv⟩ := of_readExponent h
      cases hv
    · next hp he hE =>
        split at h
        · next hl =>
            obtain ⟨hw, rfl⟩ := Prod.mk.inj (Except.ok.inj h)
            refine ⟨rfl, hl, hw, fun c hc => ?_⟩
            obtain ⟨r, rfl⟩ := List.head?_eq_some_iff.1 hc
            refine ⟨?_, ?_, ?_⟩
            · rintro rfl
              exact hp r rfl
            · rintro rfl
              exact he r rfl
            · rintro rfl
              exact hE r rfl
        · obtain ⟨-, bits, hv⟩ := of_scaled h
          cases hv
  · rintro ⟨rfl, rfl, hw, hm⟩
    unfold readUnsigned.tail
    split
    · exact absurd rfl (hm _ rfl).1
    · exact absurd rfl (hm _ rfl).2.1
    · exact absurd rfl (hm _ rfl).2.2
    · rw [if_pos rfl, hw]

theorem exists_of_readUnsigned {a : Json × List Char} (h : readUnsigned negative t = .ok a) :
    ∃ ds u, t = ds ++ u ∧ WholeDigits ds ∧ ∀ c ∈ u.head?, c.isDigit = false := by
  unfold readUnsigned at h
  split at h
  · cases h
  · next r =>
      refine ⟨['0'], r, rfl, wholeDigits_zero, fun c hc => ?_⟩
      obtain ⟨r, rfl⟩ := List.head?_eq_some_iff.1 hc
      dsimp only at h
      split at h
      · cases h
      · next hn => exact (isDigit_eq c).symm.trans (Bool.eq_false_iff.2 hn)
  · next c r h0 =>
      split at h
      · cases h
      · next hn =>
          have hc : isDigit c = true := by simpa using hn
          refine ⟨_, _, (List.takeWhile_append_dropWhile (p := isDigit)).symm, ⟨⟨?_, ?_⟩, ?_⟩, ?_⟩
          · simp [hc]
          · intro d hd
            rw [← isDigit_eq]
            exact List.all_eq_true.1 List.all_takeWhile d hd
          · intro hz
            rw [List.takeWhile_cons_of_pos hc] at hz
            exact absurd (Option.some.inj hz) h0
          · intro d hd
            have hn := List.head?_dropWhile_not isDigit (c :: r)
            rw [hd] at hn
            simpa [← isDigit_eq] using hn

theorem readUnsigned_of_wholeDigits (h : WholeDigits ds)
    (hr : ∀ c ∈ rest.head?, c.isDigit = false) :
    readUnsigned negative (ds ++ rest) =
      readUnsigned.tail negative (absorb 0 ds).1 (absorb 0 ds).2.2 rest := by
  obtain ⟨d, ds', rfl⟩ := List.exists_cons_of_ne_nil h.nonempty
  by_cases hz : d = '0'
  · subst hz
    cases h.alone rfl
    cases rest with
    | nil => rfl
    | cons c rest =>
        have hc : isDigit c = false := (isDigit_eq c).trans (hr c rfl)
        simp only [List.cons_append, List.nil_append, readUnsigned, hc]
        rfl
  · have hc : isDigit d = true := h.all d List.mem_cons_self
    have ho : digitsOf (d :: (ds' ++ rest)) = (d :: ds', rest) := digitsOf_append h.toDigits hr
    simp only [List.cons_append, readUnsigned, hc, ho, Bool.not_true]
    rfl

theorem readUnsigned_eq_int_iff :
    readUnsigned negative t = .ok (.int n, rest) ↔
      ∃ ds, t = ds ++ rest ∧ WholeDigits ds ∧ Stops rest ∧ decimal ds ≤ maxSignificand ∧
        wholeNumber negative (decimal ds) = .int n := by
  constructor
  · intro h
    obtain ⟨ds, u, rfl, hd, hu⟩ := exists_of_readUnsigned h
    rw [readUnsigned_of_wholeDigits hd hu] at h
    obtain ⟨rfl, hl, hw, hm⟩ := tail_eq_int_iff.1 h
    -- Digits beyond 64 bits are only counted, and then the number is a float.
    have hs : decimal ds ≤ maxSignificand := by
      refine Nat.not_lt.1 fun hlt => ?_
      exact absorb_of_lt (Nat.zero_le _) hlt hl
    have ha : (absorb 0 ds).1 = decimal ds := congrArg Prod.fst (absorb_of_le hs)
    exact ⟨ds, rfl, hd, ⟨hu, hm⟩, hs, ha ▸ hw⟩
  · rintro ⟨ds, rfl, hd, hs, hm, hw⟩
    have ha : absorb 0 ds = (decimal ds, ds.length, 0) := absorb_of_le hm
    rw [readUnsigned_of_wholeDigits hd hs.digit, ha]
    exact tail_eq_int_iff.2 ⟨rfl, rfl, hw, hs.mark⟩

theorem wholeNumber_true_eq_int_iff :
    wholeNumber true significand = .int n ↔
      significand ≠ 0 ∧ significand ≤ 0x8000000000000000 ∧ n = -(significand : Int) := by
  simp only [wholeNumber, Bool.not_true, Bool.false_eq_true, if_false, Bool.or_eq_true,
    decide_eq_true_eq]
  split
  · next h =>
      constructor
      · intro hf
        cases hf
      · rintro ⟨hz, hm, -⟩
        omega
  · next h =>
      rw [Json.int.injEq]
      omega

theorem Digits.head_ne_minus (h : Digits ds) (rest r : List Char) : ds ++ rest ≠ '-' :: r := by
  obtain ⟨d, ds', rfl⟩ := List.exists_cons_of_ne_nil h.nonempty
  intro he
  have hd := h.digits d List.mem_cons_self
  rw [(List.cons.inj he).1] at hd
  exact absurd hd (by decide)

theorem readNumber_of_digits (h : Digits ds) (rest : List Char) :
    readNumber (ds ++ rest) = readUnsigned false (ds ++ rest) := by
  unfold readNumber
  split
  · next he => exact absurd he (h.head_ne_minus rest _)
  · rfl

theorem readNumber_eq_int_iff :
    readNumber t = .ok (.int n, rest) ↔
      ∃ cs, t = cs ++ rest ∧ IntegerLiteral cs n ∧ Stops rest ∧
        -0x8000000000000000 ≤ n ∧ n ≤ 0xFFFFFFFFFFFFFFFF := by
  constructor
  · intro h
    unfold readNumber at h
    split at h
    · obtain ⟨ds, rfl, hd, hs, hm, hw⟩ := readUnsigned_eq_int_iff.1 h
      -- The literal `-0` is a float, so these digits stand for another number.
      obtain ⟨hz, hl, rfl⟩ := wholeNumber_true_eq_int_iff.1 hw
      refine ⟨'-' :: ds, rfl, .negative hd ?_, hs, by omega, by omega⟩
      exact fun he => hz ((decimal_eq_zero_iff hd).2 he)
    · obtain ⟨ds, rfl, hd, hs, hm, hw⟩ := readUnsigned_eq_int_iff.1 h
      obtain rfl := Json.int.inj hw
      rw [maxSignificand] at hm
      exact ⟨ds, rfl, .unsigned hd, hs, by omega, by omega⟩
  · rintro ⟨cs, rfl, hc, hs, hl, hg⟩
    cases hc with
    | unsigned hd =>
        rw [readNumber_of_digits hd.toDigits]
        refine readUnsigned_eq_int_iff.2 ⟨_, rfl, hd, hs, ?_, rfl⟩
        rw [maxSignificand]
        omega
    | negative hd hn =>
        have hz : decimal _ ≠ 0 := fun he => hn ((decimal_eq_zero_iff hd).1 he)
        refine readUnsigned_eq_int_iff.2 ⟨_, rfl, hd, hs, ?_,
          wholeNumber_true_eq_int_iff.2 ⟨hz, by omega, rfl⟩⟩
        rw [maxSignificand]
        omega

end Literals

section Values

variable {nesting : Nat}

theorem readScalar_of_numeric (h : c = '-' ∨ isDigit c = true) (r : List Char) :
    readScalar (c :: r) = readNumber (c :: r) := by
  have hn : c ≠ 'n' ∧ c ≠ 't' ∧ c ≠ 'f' ∧ c ≠ '"' := by
    refine ⟨?_, ?_, ?_, ?_⟩ <;> rintro rfl <;> revert h <;> decide
  have hc : (decide (c = '-') || isDigit c) = true := by simpa using h
  obtain ⟨h₁, h₂, h₃, h₄⟩ := hn
  simp only [readScalar, hc, if_true]

theorem readValue_of_scalar (hs : skipGap t = c :: r) (ha : c ≠ '[') (ho : c ≠ '\x7b') :
    readValue nesting t = readScalar (c :: r) := by
  have hw : ∀ inner, readValueWith inner t = readScalar (c :: r) := by
    intro inner
    simp only [readValueWith, hs]
    split
    · next he => exact absurd (List.cons.inj he).1 ha
    · next he => exact absurd (List.cons.inj he).1 ho
    · rfl
  cases nesting <;> exact hw _

theorem readValue_of_numeric (hs : skipGap t = c :: r) (h : c = '-' ∨ isDigit c = true) :
    readValue nesting t = readNumber (c :: r) := by
  have hn : c ≠ '[' ∧ c ≠ '\x7b' := by
    refine ⟨?_, ?_⟩ <;> rintro rfl <;> revert h <;> decide
  rw [readValue_of_scalar hs hn.1 hn.2, readScalar_of_numeric h]

theorem IntegerLiteral.numeric (h : IntegerLiteral cs n) :
    ∃ c cs', cs = c :: cs' ∧ (c = '-' ∨ isDigit c = true) := by
  cases h with
  | unsigned hd =>
      obtain ⟨d, ds', rfl⟩ := List.exists_cons_of_ne_nil hd.nonempty
      exact ⟨d, ds', rfl, .inr (hd.all d List.mem_cons_self)⟩
  | negative => exact ⟨'-', _, rfl, .inl rfl⟩

theorem readNumber_of_readScalar (h : readScalar t = .ok (.int n, rest)) :
    readNumber t = .ok (.int n, rest) := by
  unfold readScalar at h
  split at h
  · cases h
  · exact nomatch (readWord_value h).2
  · exact nomatch (readWord_value h).2
  · exact nomatch (readWord_value h).2
  · obtain ⟨⟨cs, u⟩, -, h⟩ := bind_eq_ok.1 h
    cases h
  · split at h
    · exact h
    · cases h

theorem readScalar_of_readValue (h : readValue nesting t = .ok (.int n, rest)) :
    readScalar (skipGap t) = .ok (.int n, rest) := by
  cases nesting with
  | zero =>
      unfold readValue readValueWith at h
      dsimp only at h
      split at h
      · cases h
      · cases h
      · exact h
  | succ nesting =>
      unfold readValue readValueWith at h
      dsimp only at h
      split at h
      · obtain ⟨⟨vs, u⟩, -, h⟩ := bind_eq_ok.1 h
        cases h
      · obtain ⟨⟨ms, u⟩, -, h⟩ := bind_eq_ok.1 h
        cases h
      · exact h

theorem readValue_eq_int_iff :
    readValue nesting t = .ok (.int n, rest) ↔
      ∃ cs, skipGap t = cs ++ rest ∧ IntegerLiteral cs n ∧ Stops rest ∧
        -0x8000000000000000 ≤ n ∧ n ≤ 0xFFFFFFFFFFFFFFFF := by
  rw [← readNumber_eq_int_iff]
  constructor
  · exact fun h => readNumber_of_readScalar (readScalar_of_readValue h)
  · intro h
    obtain ⟨cs, hs, hc, -, -⟩ := readNumber_eq_int_iff.1 h
    obtain ⟨c, cs', rfl, hn⟩ := hc.numeric
    have hr : skipGap t = c :: (cs' ++ rest) := hs
    rw [readValue_of_numeric hr hn, ← hr]
    exact h

end Values

end ContractLint.Json
