import ContractLint.Proofs.Finding.Format
import ContractLint.Proofs.Json.Integers
import Mathlib.Data.List.TakeWhile

namespace ContractLint

open Json

section Trimming

variable {front cs back : List Char}

def Text.Blank (cs : List Char) : Prop :=
  ∀ c ∈ cs, Text.isBlank c = true

namespace Text

theorem exists_trim (cs : List Char) :
    ∃ front back, cs = front ++ trim cs ++ back ∧ Blank front ∧ Blank back := by
  have hf : cs.takeWhile isBlank ++ trimStart cs = cs := List.takeWhile_append_dropWhile
  have hb : trim cs ++ ((trimStart cs).reverse.takeWhile isBlank).reverse = trimStart cs := by
    rw [trim, trimEnd, ← List.reverse_append, List.takeWhile_append_dropWhile, List.reverse_reverse]
  refine ⟨cs.takeWhile isBlank, ((trimStart cs).reverse.takeWhile isBlank).reverse, ?_, ?_, ?_⟩
  · rw [List.append_assoc, hb, hf]
  · exact fun c hc => List.mem_takeWhile_imp hc
  · exact fun c hc => List.mem_takeWhile_imp (List.mem_reverse.1 hc)

theorem trim_of_blank (hf : Blank front) (hc : ∀ c ∈ cs, isBlank c = false) (hb : Blank back) :
    trim (front ++ cs ++ back) = cs := by
  have hs : trimStart (front ++ cs ++ back) = trimStart (cs ++ back) := by
    rw [trimStart, List.append_assoc, List.dropWhile_append_of_pos hf]
    rfl
  rw [trim, hs]
  cases cs with
  | nil =>
      have he : trimStart back = [] := List.dropWhile_eq_nil_iff.2 hb
      rw [List.nil_append, he]
      rfl
  | cons c cs =>
      have hk : ¬ isBlank c = true := by simp [hc c List.mem_cons_self]
      have he : trimStart (c :: cs ++ back) = c :: cs ++ back := List.dropWhile_cons_of_neg hk
      have hr : (c :: cs).reverse.dropWhile isBlank = (c :: cs).reverse := by
        rw [List.dropWhile_eq_self_iff]
        intro hl
        simpa using hc _ (List.mem_reverse.1 (List.getElem_mem hl))
      have hd : ∀ d ∈ back.reverse, isBlank d = true := fun d hd => hb d (List.mem_reverse.1 hd)
      rw [he, trimEnd, List.reverse_append, List.dropWhile_append_of_pos hd, hr,
        List.reverse_reverse]

end Text

end Trimming

namespace Coordinate

variable {cs sign : List Char} {n : Int} {c : Int64} {v : Json}

section Numerals

inductive Numeral : List Char → Int → Prop where
  | unsigned {ds : List Char} : Digits ds → Numeral ds (decimal ds)
  | positive {ds : List Char} : Digits ds → Numeral ('+' :: ds) (decimal ds)
  | negative {ds : List Char} : Digits ds → Numeral ('-' :: ds) (-(decimal ds : Int))

inductive Padded : List Char → Int → Prop where
  | intro {front cs back : List Char} {n : Int} :
      Text.Blank front → Numeral cs n → Text.Blank back → Padded (front ++ cs ++ back) n

theorem digits?_eq_some_iff {m : Nat} : digits? cs = some m ↔ Digits cs ∧ decimal cs = m := by
  have hd : (cs != [] && cs.all Json.isDigit) = true ↔ Digits cs := by
    rw [Bool.and_eq_true, bne_iff_ne, List.all_eq_true]
    constructor
    · rintro ⟨hn, ha⟩
      exact ⟨hn, fun c hc => (Json.isDigit_eq c).symm.trans (ha c hc)⟩
    · exact fun h => ⟨h.nonempty, h.all⟩
  rw [digits?]
  split
  · next h => simp [hd.1 h, decimal]
  · next h => simp [mt hd.2 h]

theorem signed_eq_some_iff {sign : Int → Int} :
    (digits? cs >>= fun m => pure (m : Int)).map sign = some n ↔
      Digits cs ∧ sign (decimal cs) = n := by
  rw [Option.map_eq_some_iff]
  constructor
  · rintro ⟨_, hm, rfl⟩
    obtain ⟨m, hm, he⟩ := Option.bind_eq_some_iff.1 hm
    obtain ⟨hd, rfl⟩ := digits?_eq_some_iff.1 hm
    cases he
    exact ⟨hd, rfl⟩
  · rintro ⟨hd, rfl⟩
    exact ⟨_, Option.bind_eq_some_iff.2 ⟨_, digits?_eq_some_iff.2 ⟨hd, rfl⟩, rfl⟩, rfl⟩

theorem numeral?_eq_some_iff : numeral? cs = some n ↔ Numeral cs n := by
  constructor
  · intro h
    unfold numeral? at h
    split at h
    · obtain ⟨hd, rfl⟩ := signed_eq_some_iff.1 h
      exact .negative hd
    · obtain ⟨hd, rfl⟩ := signed_eq_some_iff.1 h
      exact .positive hd
    · obtain ⟨hd, rfl⟩ := signed_eq_some_iff.1 h
      exact .unsigned hd
  · intro h
    cases h with
    | unsigned hd =>
        unfold numeral?
        split
        · exact absurd (hd.digits _ List.mem_cons_self) (by decide)
        · exact absurd (hd.digits _ List.mem_cons_self) (by decide)
        · exact signed_eq_some_iff.2 ⟨hd, rfl⟩
    | positive hd => exact signed_eq_some_iff.2 ⟨hd, rfl⟩
    | negative hd => exact signed_eq_some_iff.2 ⟨hd, rfl⟩

theorem not_blank_of_digit {d : Char} (h : d.isDigit = true) : Text.isBlank d = false := by
  have hb : ∀ n ≤ '9'.toNat, '0'.toNat ≤ n → Text.blankRanges.has n = false := by decide
  simp only [Char.isDigit, Bool.and_eq_true, decide_eq_true_eq] at h
  exact hb d.toNat h.2 h.1

theorem Numeral.not_blank (h : Numeral cs n) : ∀ c ∈ cs, Text.isBlank c = false := by
  intro c hc
  cases h with
  | unsigned hd => exact not_blank_of_digit (hd.digits c hc)
  | positive hd =>
      obtain rfl | hc := List.mem_cons.1 hc
      · decide
      · exact not_blank_of_digit (hd.digits c hc)
  | negative hd =>
      obtain rfl | hc := List.mem_cons.1 hc
      · decide
      · exact not_blank_of_digit (hd.digits c hc)

theorem padded_iff : Padded cs n ↔ Numeral (Text.trim cs) n := by
  constructor
  · rintro ⟨hf, hn, hb⟩
    rw [Text.trim_of_blank hf hn.not_blank hb]
    exact hn
  · intro hn
    obtain ⟨front, back, hc, hf, hb⟩ := Text.exists_trim cs
    rw [hc]
    exact .intro hf hn hb

end Numerals

section Values

inductive Stands : Json → Int → Prop where
  | number {n : Int} : Stands (.int n) n
  | text {s : String} {n : Int} : Padded s.toList n → Stands (.str s) n

def refusal : Json → Cause
  | .str s => .notAPosition s
  | _ => .noVariantMatches "Coordinate"

theorem ofInt?_eq_some_iff : ofInt? n = some c ↔ n = c.toInt := by
  have hl := c.le_toInt
  have hg := c.toInt_lt
  rw [ofInt?, least, greatest]
  constructor
  · intro h
    split at h
    · next hn =>
        cases h
        exact (Int64.toInt_ofInt_of_le (by omega) (by omega)).symm
    · cases h
  · rintro rfl
    rw [if_pos (by omega), Int64.ofInt_toInt]

theorem ofText?_eq_some_iff {s : String} : ofText? s = some c ↔ Padded s.toList c.toInt := by
  rw [ofText?, Option.bind_eq_some_iff, padded_iff]
  constructor
  · rintro ⟨n, hn, hc⟩
    obtain rfl := ofInt?_eq_some_iff.1 hc
    exact numeral?_eq_some_iff.1 hn
  · exact fun h => ⟨_, numeral?_eq_some_iff.2 h, ofInt?_eq_some_iff.2 rfl⟩

theorem ofJson_eq_ok_iff : Coordinate.ofJson v = .ok c ↔ Stands v c.toInt := by
  constructor
  · intro h
    unfold Coordinate.ofJson at h
    split at h
    · split at h
      · next hc =>
          cases h
          rw [ofInt?_eq_some_iff.1 hc]
          exact .number
      · cases h
    · split at h
      · next hc =>
          cases h
          exact .text (ofText?_eq_some_iff.1 hc)
      · cases h
    · cases h
  · intro h
    cases h with
    | number => simp only [Coordinate.ofJson, ofInt?_eq_some_iff.2 rfl]
    | text hp => simp only [Coordinate.ofJson, ofText?_eq_some_iff.2 hp]

theorem eq_refusal {cause : Cause} (h : Coordinate.ofJson v = .error cause) :
    cause = refusal v := by
  unfold Coordinate.ofJson at h
  split at h
  · split at h
    · cases h
    · exact (Except.error.inj h).symm
  · split at h
    · cases h
    · exact (Except.error.inj h).symm
  · next hi hs =>
      obtain rfl := Except.error.inj h
      cases v with
      | str s => exact absurd rfl (hs s)
      | null | bool | int | float | arr | obj => rfl

theorem ofJson_eq_error_iff {cause : Cause} :
    Coordinate.ofJson v = .error cause ↔
      cause = refusal v ∧ ∀ n, Stands v n → n < -0x8000000000000000 ∨ 0x7FFFFFFFFFFFFFFF < n := by
  constructor
  · intro h
    refine ⟨eq_refusal h, fun n hn => ?_⟩
    by_contra hb
    have hc : (Int64.ofInt n).toInt = n := Int64.toInt_ofInt_of_le (by omega) (by omega)
    rw [← hc] at hn
    cases h.symm.trans (ofJson_eq_ok_iff.2 hn)
  · rintro ⟨rfl, hn⟩
    cases h : Coordinate.ofJson v with
    | ok c =>
        have hc := hn _ (ofJson_eq_ok_iff.1 h)
        have hl := c.le_toInt
        have hg := c.toInt_lt
        omega
    | error cause => rw [eq_refusal h]

end Values

section Texts

variable {nesting : Nat} {t rest : List Char}

theorem readValue_eq_str_iff {s : String} :
    readValue nesting t = .ok (.str s, rest) ↔
      ∃ r cs, skipGap t = '"' :: r ∧ readString r = .ok (cs, rest) ∧ s = String.ofList cs := by
  constructor
  · intro h
    exact readText_eq_ok.1 ((decodes_readText h s rest).2 ⟨rfl, rfl⟩)
  · rintro ⟨r, cs, hs, hr, rfl⟩
    rw [readValue_of_scalar hs (by decide) (by decide), readScalar]
    exact bind_eq_ok.2 ⟨_, hr, rfl⟩

theorem read_eq_ok_iff :
    Coordinate.read nesting t = .ok (c, rest) ↔
      (∃ cs, skipGap t = cs ++ rest ∧ IntegerLiteral cs c.toInt ∧ Stops rest) ∨
        ∃ r cs, skipGap t = '"' :: r ∧ readString r = .ok (cs, rest) ∧ Padded cs c.toInt := by
  rw [read_eq_ok]
  constructor
  · rintro ⟨v, hv, hc⟩
    cases ofJson_eq_ok_iff.1 hc with
    | number =>
        obtain ⟨cs, ht, hl, hs, -, -⟩ := readValue_eq_int_iff.1 hv
        exact .inl ⟨cs, ht, hl, hs⟩
    | text hp =>
        obtain ⟨r, cs, ht, hr, rfl⟩ := readValue_eq_str_iff.1 hv
        exact .inr ⟨r, cs, ht, hr, by simpa using hp⟩
  · rintro (⟨cs, ht, hl, hs⟩ | ⟨r, cs, ht, hr, hp⟩)
    · have hb := c.le_toInt
      have hg := c.toInt_lt
      refine ⟨_, readValue_eq_int_iff.2 ⟨cs, ht, hl, hs, by omega, by omega⟩, ?_⟩
      exact ofJson_eq_ok_iff.2 .number
    · refine ⟨_, readValue_eq_str_iff.2 ⟨r, cs, ht, hr, rfl⟩, ofJson_eq_ok_iff.2 (.text ?_)⟩
      rwa [String.toList_ofList]

end Texts

section Shown

inductive Sign : Int → List Char → Prop where
  | none {n : Int} : 0 ≤ n → Sign n []
  | plus {n : Int} : 0 ≤ n → Sign n ['+']
  | minus {n : Int} : n ≤ 0 → Sign n ['-']

theorem decimal_toDigits (m : Nat) : decimal (Nat.toDigits 10 m) = m :=
  Nat.ofDigitChars_ten_toDigits

theorem wholeDigits_toDigits (m : Nat) : WholeDigits (Nat.toDigits 10 m) where
  nonempty := Nat.toDigits_ne_nil
  digits := fun _ h => Nat.isDigit_of_mem_toDigits (by decide) (by decide) h
  -- The first digit of a number is the first one of its tenth part.
  alone := by
    induction m using Nat.strong_induction_on with
    | _ m ih =>
      intro h
      by_cases hm : m < 10
      · rw [Nat.toDigits_of_lt_base hm] at h ⊢
        rw [Option.some.inj h]
      · rw [Nat.toDigits_of_base_le (by decide) (by omega),
          List.head?_append_of_ne_nil _ Nat.toDigits_ne_nil] at h
        have hz : m / 10 = 0 := by
          rw [← decimal_toDigits (m / 10), ih (m / 10) (by omega) h]
          rfl
        omega

theorem toList_toString_nat (m : Nat) : (toString m).toList = Nat.toDigits 10 m := by
  rw [Nat.toString_eq_ofList_toDigits, String.toList_ofList]

theorem integerLiteral_toString (n : Int) : IntegerLiteral (toString n).toList n := by
  rw [Int.toString_eq_repr, Int.repr_eq_if]
  split
  · next hn =>
      have hl := IntegerLiteral.unsigned (wholeDigits_toDigits n.toNat)
      rw [decimal_toDigits, Int.toNat_of_nonneg hn] at hl
      rwa [← Nat.toString_eq_repr, toList_toString_nat]
  · next hn =>
      have hz : Nat.toDigits 10 (-n).toNat ≠ ['0'] := by
        intro he
        have hd := decimal_toDigits (-n).toNat
        rw [he] at hd
        have hd : 0 = (-n).toNat := hd
        omega
      have hl := IntegerLiteral.negative (wholeDigits_toDigits (-n).toNat) hz
      rw [decimal_toDigits, Int.toNat_of_nonneg (by omega), Int.neg_neg] at hl
      rwa [String.toList_append, ← Nat.toString_eq_repr, toList_toString_nat]

theorem numeral_of_sign {zeros : Nat} (h : Sign n sign) :
    Numeral (sign ++ (List.replicate zeros '0' ++ (toString n.natAbs).toList)) n := by
  rw [toList_toString_nat]
  have hd : Digits (List.replicate zeros '0' ++ Nat.toDigits 10 n.natAbs) := by
    refine ⟨by simp [Nat.toDigits_ne_nil], fun d hd => ?_⟩
    obtain hz | hd := List.mem_append.1 hd
    · rw [List.eq_of_mem_replicate hz]
      rfl
    · exact (wholeDigits_toDigits _).digits d hd
  have hv : decimal (List.replicate zeros '0' ++ Nat.toDigits 10 n.natAbs) = n.natAbs := by
    rw [decimal, Nat.ofDigitChars_append, Nat.ofDigitChars_replicate_zero, Nat.mul_zero]
    exact decimal_toDigits _
  cases h with
  | none hn =>
      have hr := Numeral.unsigned hd
      rwa [hv, Int.natAbs_of_nonneg hn] at hr
  | plus hn =>
      have hr := Numeral.positive hd
      rwa [hv, Int.natAbs_of_nonneg hn] at hr
  | minus hn =>
      have hr := Numeral.negative hd
      rwa [hv, Int.ofNat_natAbs_of_nonpos hn, Int.neg_neg] at hr

end Shown

theorem coordinates_are_numerals :
    (∀ v c, Coordinate.ofJson v = .ok c ↔ Stands v c.toInt) ∧
    (∀ v cause, Coordinate.ofJson v = .error cause ↔
      cause = refusal v ∧ ∀ n, Stands v n → n < -0x8000000000000000 ∨ 0x7FFFFFFFFFFFFFFF < n) ∧
    (∀ nesting t c rest, Coordinate.read nesting t = .ok (c, rest) ↔
      (∃ cs, skipGap t = cs ++ rest ∧ IntegerLiteral cs c.toInt ∧ Stops rest) ∨
        ∃ r cs, skipGap t = '"' :: r ∧ readString r = .ok (cs, rest) ∧ Padded cs c.toInt) ∧
    (∀ nesting t (c : Int64) rest, skipGap t = (toString c.toInt).toList ++ rest → Stops rest →
      Coordinate.read nesting t = .ok (c, rest)) ∧
    ∀ (c : Int64) front sign zeros back,
      Text.Blank front → Sign c.toInt sign → Text.Blank back →
      Coordinate.ofJson (.str (String.ofList (front ++
        (sign ++ (List.replicate zeros '0' ++ (toString c.toInt.natAbs).toList)) ++ back))) =
          .ok c := by
  refine ⟨fun _ _ => ofJson_eq_ok_iff, fun _ _ => ofJson_eq_error_iff,
    fun _ _ _ _ => read_eq_ok_iff, ?_, ?_⟩
  · intro nesting t c rest ht hs
    exact read_eq_ok_iff.2 (.inl ⟨_, ht, integerLiteral_toString c.toInt, hs⟩)
  · intro c front sign zeros back hf hn hb
    refine ofJson_eq_ok_iff.2 (.text ?_)
    rw [String.toList_ofList]
    exact .intro hf (numeral_of_sign hn) hb

end Coordinate

end ContractLint
