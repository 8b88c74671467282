import Mathlib.Tactic.Common
import ChainView.Json.Number
import ChainView.Json.Writer

/-!
# Integers are read back as written

An integer is written in decimal without superfluous zeros.  The reader takes its digits into the
significand one after the other; along the decimal notation of a number that is its value divided by
less and less powers of ten, so no digit is left out as long as the number itself fits an unsigned
word (`exists_takeDigits_decimal`).  For the reader to stop where the writer did, the bytes that
follow must not go on with the number: `EndsNumber` says that they are no digit, point or exponent.
-/

namespace ChainView.Json

/-- A byte that may stand in a number behind its first digit. -/
def continuesNumber (b : UInt8) : Bool :=
  Ascii.isDigit b || b == Ascii.point || b == Ascii.byte 'e' || b == Ascii.byte 'E'

/-- The bytes do not go on with a number that stands before them. -/
inductive EndsNumber : Bytes → Prop
  /-- There are none. -/
  | nil : EndsNumber []
  /-- The first one does not go on with it. -/
  | cons {b : UInt8} {rest : Bytes} (h : continuesNumber b = false) : EndsNumber (b :: rest)

/-! ## Digits -/

/-- A digit that is written has its value. -/
lemma digit?_digitChar {d : Nat} (h : d < 10) : Ascii.digit? (Ascii.byte d.digitChar) = some d := by
  have table : ∀ k : Fin 10, Ascii.digit? (Ascii.byte k.val.digitChar) = some k.val := by decide
  exact table ⟨d, h⟩

/-- A number of one digit is written by that digit. -/
lemma decimal_of_lt {n : Nat} (h : n < 10) : Ascii.decimal n = [Ascii.byte n.digitChar] := by
  rw [Ascii.decimal, Nat.toDigits_of_lt_base h, List.map_singleton]

/-- A larger number is written by the digits of its tenth and its last digit. -/
lemma decimal_of_le {n : Nat} (h : 10 ≤ n) :
    Ascii.decimal n = Ascii.decimal (n / 10) ++ [Ascii.byte (n % 10).digitChar] := by
  rw [Ascii.decimal, Nat.toDigits_of_base_le (by decide) h, List.map_append, List.map_singleton,
    ← Ascii.decimal]

/-- A digit that leaves the significand within a word is taken. -/
lemma takeDigits_cons {significand d : Nat} {b : UInt8} (hd : Ascii.digit? b = some d)
    (hfits : significand * 10 + d < UInt64.size) (count : Nat) (rest : Bytes) :
    takeDigits significand count (b :: rest)
      = takeDigits (significand * 10 + d) (count + 1) rest := by
  have h : fits significand d = true := decide_eq_true hfits
  simp only [takeDigits, hd, h, if_true]

/-- The digits of a positive number that fits a word start with one that is not zero, and those that
follow make up the number. -/
lemma exists_takeDigits_decimal {n : Nat} (hpos : 0 < n) (hfits : n < UInt64.size) :
    ∃ b d digits, Ascii.decimal n = b :: digits ∧ Ascii.digit? b = some d ∧ d ≠ 0 ∧
      ∀ count rest, takeDigits d count (digits ++ rest)
        = takeDigits n (count + digits.length) rest := by
  induction n using Nat.strongRecOn with
  | ind n ih =>
    rcases Nat.lt_or_ge n 10 with hlt | hge
    · exact ⟨_, n, [], decimal_of_lt hlt, digit?_digitChar hlt, by omega, fun _ _ => rfl⟩
    -- all digits but the last make up the tenth of the number, which fits since the number does
    · obtain ⟨b, d, digits, hdecimal, hb, hd, htake⟩ :=
        ih (n / 10) (by omega) (by omega) (by omega)
      have hlast : Ascii.digit? (Ascii.byte (n % 10).digitChar) = some (n % 10) :=
        digit?_digitChar (Nat.mod_lt n (by decide))
      have hn : n / 10 * 10 + n % 10 = n := by omega
      refine ⟨b, d, digits ++ [Ascii.byte (n % 10).digitChar], ?_, hb, hd, ?_⟩
      · rw [decimal_of_le hge, hdecimal, List.cons_append]
      · intro count rest
        rw [List.append_assoc, htake, List.singleton_append,
          takeDigits_cons hlast (by rwa [hn]), hn, List.length_append, List.length_singleton,
          Nat.add_assoc]

/-- The first digit of a number. -/
lemma exists_digit_decimal (n : Nat) :
    ∃ b digits, Ascii.decimal n = b :: digits ∧ Ascii.isDigit b = true := by
  induction n using Nat.strongRecOn with
  | ind n ih =>
    rcases Nat.lt_or_ge n 10 with hlt | hge
    · exact ⟨_, [], decimal_of_lt hlt, by rw [Ascii.isDigit, digit?_digitChar hlt]; rfl⟩
    · obtain ⟨b, digits, hdecimal, hb⟩ := ih (n / 10) (by omega)
      exact ⟨b, _, by rw [decimal_of_le hge, hdecimal, List.cons_append], hb⟩

/-! ## Numbers -/

section Ends

variable {rest : Bytes}

/-- Behind the end of a number no digit is taken. -/
lemma takeDigits_of_endsNumber (h : EndsNumber rest) (significand count : Nat) :
    takeDigits significand count rest = (significand, count, rest) := by
  cases h with
  | nil => rfl
  | @cons b rest h =>
    have hdigit : Ascii.digit? b = none := by simp_all [continuesNumber, Ascii.isDigit]
    simp only [takeDigits, hdigit]

/-- Behind the end of a number no digit is passed. -/
lemma passDigits_of_endsNumber (h : EndsNumber rest) (count : Nat) :
    passDigits count rest = (count, rest) := by
  cases h with
  | nil => rfl
  | @cons b rest h =>
    have hdigit : Ascii.isDigit b = false := by simp_all [continuesNumber]
    simp [passDigits, hdigit]

/-- A number that ends behind its digits is an integer. -/
lemma afterInteger_of_endsNumber (h : EndsNumber rest) (negative : Bool) (significand : Nat) :
    afterInteger negative significand 0 rest = .ok (integerValue negative significand, rest) := by
  cases h with
  | nil => rfl
  | @cons b rest h =>
    have hpoint : b ≠ Ascii.point := by rintro rfl; revert h; decide
    have he : ¬ (b = Ascii.byte 'e' ∨ b = Ascii.byte 'E') := by
      rintro (rfl | rfl) <;> revert h <;> decide
    simp only [afterInteger, if_neg hpoint, if_neg he, if_true]

/-- The digits of a number that fits a word are read as the integer of that magnitude. -/
lemma magnitude_decimal (negative : Bool) {n : Nat} (hfits : n < UInt64.size)
    (hrest : EndsNumber rest) :
    magnitude negative (Ascii.decimal n ++ rest) = .ok (integerValue negative n, rest) := by
  rcases Nat.eq_zero_or_pos n with rfl | hpos
  · have hzero : Ascii.digit? (Ascii.byte (Nat.digitChar 0)) = some 0 := by decide
    rw [decimal_of_lt (by decide), List.singleton_append]
    cases hrest with
    | nil => rfl
    | @cons b rest h =>
      have hdigit : Ascii.isDigit b = false := by simp_all [continuesNumber]
      simp only [magnitude, hzero, hdigit, Bool.false_eq_true, if_false]
      exact afterInteger_of_endsNumber (.cons h) negative 0
  · obtain ⟨b, d, digits, hdecimal, hb, hd, htake⟩ := exists_takeDigits_decimal hpos hfits
    rw [hdecimal, List.cons_append]
    unfold magnitude
    simp only [hb, htake, takeDigits_of_endsNumber hrest, passDigits_of_endsNumber hrest]
    exact afterInteger_of_endsNumber hrest negative n

end Ends

/-- An integer is the value of its sign and its magnitude. -/
lemma integerValue_natAbs (n : Integer) :
    integerValue (decide (n.toInt < 0)) n.toInt.natAbs = .integer n := by
  have habs : (if decide (n.toInt < 0) = true then -(n.toInt.natAbs : Int) else n.toInt.natAbs)
      = n.toInt := by
    split_ifs with hneg <;> simp only [decide_eq_true_eq] at hneg <;> omega
  have hzero : ¬ (decide (n.toInt < 0) = true ∧ n.toInt.natAbs = 0) := by
    rw [decide_eq_true_eq]
    omega
  rw [integerValue, habs, Integer.ofInt?_toInt]
  exact if_neg hzero

/-- The first byte of an integer is a minus sign or a digit. -/
lemma exists_writeInt (n : Int) :
    ∃ b digits, writeInt n = b :: digits ∧ (b = Ascii.minus ∨ Ascii.isDigit b = true) := by
  unfold writeInt
  split_ifs with hneg
  · exact ⟨_, _, rfl, .inl rfl⟩
  · obtain ⟨b, digits, hdecimal, hb⟩ := exists_digit_decimal n.natAbs
    exact ⟨b, digits, hdecimal, .inr hb⟩

/-- An integer is read as its sign and its magnitude. -/
lemma number_writeInt_append (n : Int) (rest : Bytes) :
    number (writeInt n ++ rest) = magnitude (decide (n < 0)) (Ascii.decimal n.natAbs ++ rest) := by
  unfold writeInt
  split_ifs with hneg
  · rw [List.cons_append, number, if_pos rfl, decide_eq_true hneg]
  · obtain ⟨b, digits, hdecimal, hb⟩ := exists_digit_decimal n.natAbs
    have hminus : b ≠ Ascii.minus := by rintro rfl; revert hb; decide
    rw [hdecimal, List.cons_append, number, if_neg hminus, decide_eq_false hneg]

/-- An integer that is written is read back. -/
theorem number_writeInt (n : Integer) {rest : Bytes} (hrest : EndsNumber rest) :
    number (writeInt n.toInt ++ rest) = .ok (.integer n, rest) := by
  have hfits : n.toInt.natAbs < UInt64.size := by
    have hlower := n.lower
    have hupper := n.upper
    have hsize : UInt64.size = 18446744073709551616 := rfl
    omega
  rw [number_writeInt_append, magnitude_decimal _ hfits hrest, integerValue_natAbs]

end ChainView.Json
