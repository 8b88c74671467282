import ChainView.Proofs.Json.Grammar

/-!
# Integers in plain decimal

An integer of any size may be written in plain decimal, but only those that fit a 64-bit word of
either sign are values.  The others are read in one of two other ways, and it depends on the digits
alone in which: as a double-precision number, or as a fault because even this would be too large.  A
negative integer whose magnitude fits an unsigned word is a double-precision number at once.  If the
magnitude does not fit, the digits that go beyond the word are counted only
(`exists_takeDigits_of_le`), and so the number is no integer any more, whatever its value is.

`FailsText` is the other outcome of a reader beside `ReadsText`: a text in front of which it fails
whatever follows.
-/

namespace ChainView.Json

/-- The reader fails at a text, whatever follows, as long as it does not go on with a number. -/
def FailsText {α : Type} (reader : Reader α) (text : Bytes) : Prop :=
  ∀ rest, EndsNumber rest → ∃ fault, reader (text ++ rest) = .error fault

/-! ## Plain decimal -/

/-- Digits stand for themselves. -/
lemma bytesOf_toDigits (n : ℕ) :
    Text.bytesOf (String.ofList (Nat.toDigits 10 n)) = Ascii.decimal n := by
  have hascii : ∀ d < 10, String.utf8EncodeChar (Nat.digitChar d) = [Ascii.byte d.digitChar] := by
    decide
  rw [Text.bytesOf_ofList]
  induction n using Nat.strongRecOn with
  | ind n ih =>
    rcases Nat.lt_or_ge n 10 with hlt | hge
    · rw [decimal_of_lt hlt, Nat.toDigits_of_lt_base hlt, List.flatMap_singleton, hascii n hlt]
    · rw [decimal_of_le hge, Nat.toDigits_of_base_le (by decide) hge, List.flatMap_append,
        ih (n / 10) (by omega), List.flatMap_singleton, hascii _ (Nat.mod_lt n (by decide))]

/-- An integer is written in plain decimal. -/
lemma bytesOf_toString (n : ℤ) : Text.bytesOf (toString n) = writeInt n := by
  have hminus : Text.bytesOf "-" = [Ascii.minus] := by decide
  cases n with
  | ofNat n =>
    have hsign : ¬ Int.ofNat n < 0 := by simp
    rw [writeInt, if_neg hsign]
    exact bytesOf_toDigits n
  | negSucc n =>
    rw [writeInt, if_pos (Int.negSucc_lt_zero n)]
    change Text.bytesOf ("-" ++ String.ofList (Nat.toDigits 10 (n + 1))) = _
    rw [Text.bytesOf_append, hminus, bytesOf_toDigits]
    rfl

/-! ## Digits beyond a word -/

/-- Digits are passed all at once. -/
lemma passDigits_digits {digits : Bytes} (h : ∀ b ∈ digits, Ascii.isDigit b = true) {rest : Bytes}
    (hrest : EndsNumber rest) (count : ℕ) :
    passDigits count (digits ++ rest) = (count + digits.length, rest) := by
  induction digits generalizing count with
  | nil => exact passDigits_of_endsNumber hrest count
  | cons b digits ih =>
    obtain ⟨hb, hdigits⟩ := List.forall_mem_cons.mp h
    rw [List.cons_append, passDigits, if_pos hb, ih hdigits, List.length_cons, Nat.add_right_comm,
      Nat.add_assoc]

/-- The digits of a number that does not fit a word start with one that is not zero, and of those
that follow some are left over when the others are taken. -/
lemma exists_takeDigits_of_le {n : ℕ} (hlarge : UInt64.size ≤ n) :
    ∃ b d digits significand taken excess, Ascii.decimal n = b :: digits ∧
      Ascii.digit? b = some d ∧ d ≠ 0 ∧ excess ≠ [] ∧ (∀ c ∈ excess, Ascii.isDigit c = true) ∧
      ∀ rest, takeDigits d 0 (digits ++ rest) = (significand, taken, excess ++ rest) := by
  have hsize : UInt64.size = 18446744073709551616 := rfl
  induction n using Nat.strongRecOn with
  | ind n ih =>
    have hlast : Ascii.digit? (Ascii.byte (n % 10).digitChar) = some (n % 10) :=
      digit?_digitChar (Nat.mod_lt n (by decide))
    have hdigit : Ascii.isDigit (Ascii.byte (n % 10).digitChar) = true := by
      rw [Ascii.isDigit, hlast]
      rfl
    have hdecimal : Ascii.decimal n = Ascii.decimal (n / 10) ++ [Ascii.byte (n % 10).digitChar] :=
      decimal_of_le (by omega)
    rcases Nat.lt_or_ge (n / 10) UInt64.size with hfits | hover
    -- the digits before the last are taken, and the last does not fit behind them
    · obtain ⟨b, d, digits, htenth, hb, hd, htake⟩ :=
        exists_takeDigits_decimal (n := n / 10) (by omega) hfits
      refine ⟨b, d, digits ++ [Ascii.byte (n % 10).digitChar], n / 10, 0 + digits.length,
        [Ascii.byte (n % 10).digitChar], by rw [hdecimal, htenth]; rfl, hb, hd,
        List.cons_ne_nil _ _, List.forall_mem_singleton.mpr hdigit, fun rest => ?_⟩
      have hn : n / 10 * 10 + n % 10 = n := by omega
      have hfull : fits (n / 10) (n % 10) = false := by
        rw [fits, hn]
        exact decide_eq_false (Nat.not_lt.mpr hlarge)
      rw [List.append_assoc, htake, List.singleton_append]
      simp [takeDigits, hlast, hfull]
    -- digits are left over already, and the last is one more of them
    · obtain ⟨b, d, digits, significand, taken, excess, htenth, hb, hd, hne, hdigits, htake⟩ :=
        ih (n / 10) (by omega) hover
      refine ⟨b, d, digits ++ [Ascii.byte (n % 10).digitChar], significand, taken,
        excess ++ [Ascii.byte (n % 10).digitChar], by rw [hdecimal, htenth]; rfl, hb, hd,
        List.append_ne_nil_of_left_ne_nil hne _,
        List.forall_mem_append.mpr ⟨hdigits, List.forall_mem_singleton.mpr hdigit⟩, fun rest => ?_⟩
      rw [List.append_assoc, htake, List.append_assoc]

/-- A number that ends behind digits that went beyond the significand is no integer. -/
lemma afterInteger_of_passed {rest : Bytes} (h : EndsNumber rest) (negative : Bool)
    (significand : ℕ) {passed : ℕ} (hpassed : passed ≠ 0) :
    afterInteger negative significand passed rest =
      finish negative significand passed rest := by
  cases h with
  | nil => simp only [afterInteger, if_neg hpassed]
  | @cons b rest h =>
    have hpoint : b ≠ Ascii.point := by rintro rfl; revert h; decide
    have he : ¬ (b = Ascii.byte 'e' ∨ b = Ascii.byte 'E') := by
      rintro (rfl | rfl) <;> revert h <;> decide
    simp only [afterInteger, if_neg hpoint, if_neg he, if_neg hpassed]

/-! ## Integers that are no values -/

/-- An integer fits a 64-bit word of either sign. -/
def FitsWord (n : ℤ) : Prop := -9223372036854775808 ≤ n ∧ n < 18446744073709551616

instance (n : ℤ) : Decidable (FitsWord n) :=
  inferInstanceAs (Decidable (-9223372036854775808 ≤ n ∧ n < 18446744073709551616))

/-- The digits of a number that does not fit a word are read as another number, or not at all. -/
lemma magnitude_of_le (negative : Bool) {n : ℕ} (hlarge : UInt64.size ≤ n) :
    (∃ x, ReadsText (magnitude negative) (Ascii.decimal n) (.float x)) ∨
      FailsText (magnitude negative) (Ascii.decimal n) := by
  obtain ⟨b, d, digits, significand, taken, excess, hdecimal, hb, hd, hne, hdigits, htake⟩ :=
    exists_takeDigits_of_le hlarge
  have hfinish : ∀ rest, EndsNumber rest → magnitude negative (Ascii.decimal n ++ rest) =
      finish negative significand excess.length rest := by
    intro rest hrest
    rw [hdecimal, List.cons_append]
    unfold magnitude
    simp only [hb, htake, passDigits_digits hdigits hrest, Nat.zero_add]
    exact afterInteger_of_passed hrest negative significand (List.length_pos_iff.mpr hne).ne'
  cases hscaled : scaled significand excess.length with
  | some x =>
    refine .inl ⟨signed negative x, [], blank_nil, fun rest hrest => ?_⟩
    rw [hfinish rest hrest, finish, hscaled]
    rfl
  | none =>
    refine .inr fun rest hrest => ?_
    rw [hfinish rest hrest, finish, hscaled]
    exact ⟨_, rfl⟩

/-- An integer that does not fit a word is read as another number, or not at all. -/
lemma number_of_not_fitsWord {n : ℤ} (h : ¬ FitsWord n) :
    (∃ x, ReadsText number (writeInt n) (.float x)) ∨ FailsText number (writeInt n) := by
  rcases Nat.lt_or_ge n.natAbs UInt64.size with hfits | hlarge
  · have hrange : Integer.ofInt? (if decide (n < 0) = true then -(n.natAbs : ℤ) else n.natAbs) =
        none := by
      have hsigned : (if decide (n < 0) = true then -(n.natAbs : ℤ) else n.natAbs) = n := by
        split_ifs with hneg <;> simp only [decide_eq_true_eq] at hneg <;> omega
      rw [hsigned]
      exact dif_neg h
    refine .inl ⟨signed (decide (n < 0)) (UInt64.ofNat n.natAbs).toFloat, [], blank_nil,
      fun rest hrest => ?_⟩
    rw [number_writeInt_append, magnitude_decimal _ hfits hrest, integerValue, hrange]
    rfl
  · rcases magnitude_of_le (decide (n < 0)) hlarge with ⟨x, behind, hbehind, hread⟩ | hfails
    · refine .inl ⟨x, behind, hbehind, fun rest hrest => ?_⟩
      rw [number_writeInt_append]
      exact hread rest hrest
    · refine .inr fun rest hrest => ?_
      rw [number_writeInt_append]
      exact hfails rest hrest

/-! ## Separators around a text -/

section Between

variable {before behind : Bytes} {depth : ℕ}

/-- What follows separators does not go on with a number before them. -/
lemma endsNumber_blank (h : Blank behind) {rest : Bytes} (hrest : EndsNumber rest) :
    EndsNumber (behind ++ rest) := by
  cases behind with
  | nil => exact hrest
  | cons b behind => exact .cons (continuesNumber_of_isSpace (h b List.mem_cons_self))

/-- A value is read between separators. -/
lemma ReadsText.between (hbefore : Blank before) (hbehind : Blank behind) {text : Bytes}
    {v : Value} (h : ReadsText (value depth) text v) :
    ReadsText (value depth) (before ++ (text ++ behind)) v := by
  obtain ⟨left, hleft, hread⟩ := h
  refine ⟨left ++ behind, List.forall_mem_append.mpr ⟨hleft, hbehind⟩, fun rest hrest => ?_⟩
  rw [List.append_assoc, value_blank hbefore, List.append_assoc,
    hread _ (endsNumber_blank hbehind hrest), List.append_assoc]

/-- The reader of values fails between separators where it fails without them. -/
lemma FailsText.between (hbefore : Blank before) (hbehind : Blank behind) {text : Bytes}
    (h : FailsText (value depth) text) :
    FailsText (value depth) (before ++ (text ++ behind)) := by
  intro rest hrest
  rw [List.append_assoc, value_blank hbefore, List.append_assoc]
  exact h _ (endsNumber_blank hbehind hrest)

end Between

/-- The texts of an integer in plain decimal, with separators before and behind. -/
inductive PlainText (n : ℤ) : Bytes → Prop
  /-- The digits between the separators. -/
  | digits {before behind : Bytes} (hbefore : Blank before) (hbehind : Blank behind) :
      PlainText n (before ++ (Text.bytesOf (toString n) ++ behind))

namespace PlainText

variable {n : ℤ} {text : Bytes} {depth : ℕ}

/-- An integer that fits a word is read as it is. -/
lemma readsText (h : PlainText n text) {k : Integer} (hk : k.toInt = n) :
    ReadsText (value depth) text (.integer k) := by
  obtain ⟨hbefore, hbehind⟩ := h
  refine ReadsText.between hbefore hbehind ⟨[], blank_nil, fun rest hrest => ?_⟩
  rw [bytesOf_toString, value_writeInt, ← hk]
  exact number_writeInt k hrest

/-- In front of the digits a list has an item. -/
lemma nextItem (h : PlainText n text) (rest : Bytes) :
    nextItem true (text ++ rest) = .ok (true, skipSpace (text ++ rest)) := by
  obtain ⟨hbefore, hbehind⟩ := h
  rename_i before behind
  obtain ⟨b, digits, htext, hb⟩ := exists_writeInt n
  have hclose : b ≠ Ascii.closeBracket := ne_of_opensNumber hb (by decide)
  rw [bytesOf_toString, htext, List.append_assoc, nextItem_blank hbefore, skipSpace_blank hbefore,
    List.append_assoc, List.cons_append, skipSpace_cons (isSpace_of_opensNumber hb), Json.nextItem,
    skipSpace_cons (isSpace_of_opensNumber hb)]
  simp only [if_neg hclose, if_true]

end PlainText

/-- Any other integer is read as another number from all of its texts, or from none of them. -/
lemma exists_readsText_or_failsText {n : ℤ} (hn : ¬ FitsWord n) (depth : ℕ) :
    (∃ x, ∀ {text : Bytes}, PlainText n text → ReadsText (value depth) text (.float x)) ∨
      ∀ {text : Bytes}, PlainText n text → FailsText (value depth) text := by
  rcases number_of_not_fitsWord hn with ⟨x, left, hleft, hread⟩ | hfails
  · refine .inl ⟨x, ?_⟩
    rintro _ ⟨hbefore, hbehind⟩
    refine ReadsText.between hbefore hbehind ⟨left, hleft, fun rest hrest => ?_⟩
    rw [bytesOf_toString, value_writeInt]
    exact hread rest hrest
  · refine .inr ?_
    rintro _ ⟨hbefore, hbehind⟩
    refine FailsText.between hbefore hbehind fun rest hrest => ?_
    rw [bytesOf_toString, value_writeInt]
    exact hfails rest hrest

/-- The texts of a list of an integer alone in plain decimal, with separators before and behind. -/
inductive ListText (n : ℤ) : Bytes → Prop
  /-- The integer in brackets between the separators. -/
  | brackets {before text behind : Bytes} (hbefore : Blank before) (h : PlainText n text)
      (hbehind : Blank behind) :
      ListText n (before ++ (Ascii.openBracket :: (text ++ [Ascii.closeBracket]) ++ behind))

namespace ListText

variable {n : ℤ} {text : Bytes} {depth : ℕ}

/-- A list is read as the list of what its integer is read as. -/
lemma readsText_of_item (h : ListText n text) {v : Value} (hv : v.sortKeys = v)
    (hitem : ∀ {item : Bytes}, PlainText n item → ReadsText (value depth) item v) :
    ReadsText (value (depth + 1)) text (.array [v]) := by
  obtain ⟨hbefore, hplain, hbehind⟩ := h
  rename_i before item behind
  refine ReadsText.between hbefore hbehind ?_
  have hitems : ∀ i ∈ [(v, item)], ReadsText (value depth) i.2 i.1.sortKeys :=
    List.forall_mem_singleton.mpr (by rw [hv]; exact hitem hplain)
  simpa [separate, Value.sortKeys, sortItems, hv] using readsText_array blank_nil hitems

/-- The reader of values fails at a list where it fails at its integer. -/
lemma failsText_of_item (h : ListText n text)
    (hitem : ∀ {item : Bytes}, PlainText n item → FailsText (value depth) item) :
    FailsText (value (depth + 1)) text := by
  obtain ⟨hbefore, hplain, hbehind⟩ := h
  rename_i before item behind
  refine FailsText.between hbefore hbehind fun rest _ => ?_
  obtain ⟨fault, hfault⟩ := hitem hplain (Ascii.closeBracket :: rest)
    (.cons continuesNumber_closeBracket)
  have hnext := hplain.nextItem (Ascii.closeBracket :: rest)
  have hspace : skipSpace (Ascii.openBracket :: (item ++ Ascii.closeBracket :: rest)) =
      Ascii.openBracket :: (item ++ Ascii.closeBracket :: rest) := rfl
  refine ⟨fault, ?_⟩
  rw [List.cons_append, List.append_assoc, List.singleton_append, value, readValue, hspace]
  simp only [readItems, hnext, value_skipSpace, hfault]
  rfl

/-- A list of an integer that fits a word is read as it is. -/
lemma readsText (h : ListText n text) {k : Integer} (hk : k.toInt = n) :
    ReadsText (value (depth + 1)) text (.array [.integer k]) :=
  h.readsText_of_item rfl fun hplain => hplain.readsText hk

/-- A list of any other integer is read as a list of another number, or not at all. -/
lemma readsText_or_failsText (h : ListText n text) (hn : ¬ FitsWord n) :
    (∃ x, ReadsText (value (depth + 1)) text (.array [.float x])) ∨
      FailsText (value (depth + 1)) text := by
  rcases exists_readsText_or_failsText hn depth with ⟨x, hread⟩ | hfails
  · exact .inl ⟨x, h.readsText_of_item rfl hread⟩
  · exact .inr (h.failsText_of_item hfails)

end ListText

end ChainView.Json
