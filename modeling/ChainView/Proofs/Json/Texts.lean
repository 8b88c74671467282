import ChainView.Proofs.Json.Literals

/-!
# What is written is a text

The bytes that are written for a value are the UTF-8 form of a text, whatever the value is
(`isText_write`).  Numbers, words and the signs between them are of the ASCII range.  A string is
written character by character: the form of a character of the ASCII range is escaped to bytes of
that range, and every other form stands as it is.
-/

namespace ChainView

/-- Bytes are the UTF-8 form of a text. -/
def Text.IsText (bs : Bytes) : Prop :=
  ∃ s, bs = Text.bytesOf s

namespace Text.IsText

/-- No bytes are a text. -/
lemma nil : IsText [] := ⟨"", rfl⟩

/-- Bytes of the ASCII range are a text. -/
lemma of_ascii {bs : Bytes} (h : ∀ b ∈ bs, b < 0x80) : IsText bs :=
  ⟨Text.ofAscii bs, (Text.bytesOf_ofAscii h).symm⟩

/-- The form of a character is a text. -/
lemma of_char (c : Char) : IsText (String.utf8EncodeChar c) :=
  ⟨String.ofList [c], by rw [Text.bytesOf_ofList, List.flatMap_singleton]⟩

/-- Two texts in a row are a text. -/
lemma append {first second : Bytes} (h : IsText first) (hsecond : IsText second) :
    IsText (first ++ second) := by
  obtain ⟨s, rfl⟩ := h
  obtain ⟨t, rfl⟩ := hsecond
  exact ⟨s ++ t, (Text.bytesOf_append s t).symm⟩

/-- Texts in a row are a text. -/
lemma flatMap {ι : Type} {items : List ι} {text : ι → Bytes} (h : ∀ i ∈ items, IsText (text i)) :
    IsText (items.flatMap text) := by
  induction items with
  | nil => exact .nil
  | cons i items ih =>
    rw [List.flatMap_cons]
    exact (h i List.mem_cons_self).append (ih fun j hj => h j (List.mem_cons_of_mem i hj))

/-- A text behind a byte of the ASCII range is a text. -/
lemma cons {b : UInt8} (hb : b < 0x80) {bs : Bytes} (h : IsText bs) : IsText (b :: bs) := by
  have hfirst : IsText [b] := of_ascii (by simpa using hb)
  exact hfirst.append h

end Text.IsText

/-! ## Numbers -/

namespace Decimal

/-- All characters are of the ASCII range. -/
def AsciiChars (cs : List Char) : Prop :=
  ∀ c ∈ cs, c.toNat < 128

/-- Digits are of the ASCII range. -/
lemma asciiChars_toDigits (n : ℕ) : AsciiChars (Nat.toDigits 10 n) := by
  intro c hc
  have hdigit := Nat.isDigit_of_mem_toDigits (by decide) (by decide) hc
  simp only [Char.isDigit, Bool.and_eq_true, decide_eq_true_eq] at hdigit
  exact Nat.lt_of_le_of_lt (UInt32.le_iff_toNat_le.mp hdigit.2) (by decide)

/-- The digits that are left of a number without its last zeros are of the ASCII range. -/
lemma asciiChars_ofScaled (n : ℕ) (k : ℤ) : AsciiChars (Digits.ofScaled n k).digits := by
  intro c hc
  have hkept := (List.dropWhile_sublist _).subset (List.mem_reverse.mp hc)
  exact asciiChars_toDigits n c (List.mem_reverse.mp hkept)

/-- The digits that a search finds are of the ASCII range. -/
lemma asciiChars_searchGrids {r : Interval} {lead : Int} {more count : ℕ} {d : Digits}
    (h : searchGrids r lead more count = some d) : AsciiChars d.digits := by
  induction more generalizing count with
  | zero => cases h
  | succ more ih =>
    rw [searchGrids] at h
    split at h
    · cases h
      exact asciiChars_ofScaled _ _
    · exact ih h

/-- The shortest digits are of the ASCII range. -/
lemma asciiChars_shortest (b : Binary) : AsciiChars (shortest b).digits := by
  unfold shortest
  dsimp only
  cases hsearch : searchGrids b.interval (leadingExponent b.interval.mid b.interval.den) 17 1 with
  | none => simp [AsciiChars]
  | some d => exact asciiChars_searchGrids hsearch

/-- Two lists of the ASCII range in a row are of it. -/
lemma AsciiChars.append {cs ds : List Char} (h : AsciiChars cs) (hds : AsciiChars ds) :
    AsciiChars (cs ++ ds) := by
  intro c hc
  exact (List.mem_append.mp hc).elim (h c) (hds c)

/-- What stands in a list of the ASCII range is of it. -/
lemma AsciiChars.sublist {cs ds : List Char} (h : AsciiChars cs) (hds : ds.Sublist cs) :
    AsciiChars ds :=
  fun c hc => h c (hds.subset hc)

/-- A decimal with such digits is written with characters of the ASCII range. -/
lemma Digits.asciiChars_text {d : Digits} (h : AsciiChars d.digits) : AsciiChars d.text := by
  have hzeros (n : ℕ) : AsciiChars (List.replicate n '0') := fun c hc => by
    rw [List.eq_of_mem_replicate hc]
    decide
  have htake (n : ℕ) : AsciiChars (d.digits.take n) := h.sublist (List.take_sublist n _)
  have hdrop (n : ℕ) : AsciiChars (d.digits.drop n) := h.sublist (List.drop_sublist n _)
  have hpoint : AsciiChars ['.'] := by simp [AsciiChars]
  have hzero : AsciiChars ['0', '.'] := by simp [AsciiChars]
  have hend : AsciiChars ['.', '0'] := by simp [AsciiChars]
  have hless : AsciiChars ['e', '-'] := by simp [AsciiChars]
  have hmore : AsciiChars ['e', '+'] := by simp [AsciiChars]
  unfold text
  dsimp only
  split_ifs
  · exact (hzero.append (hzeros _)).append h
  · exact (h.append (hzeros _)).append hend
  · exact ((htake _).append hpoint).append (hdrop _)
  · exact (h.append hless).append (asciiChars_toDigits _)
  · exact (h.append hmore).append (asciiChars_toDigits _)
  · exact ((((htake _).append hpoint).append (hdrop _)).append hless).append (asciiChars_toDigits _)
  · exact ((((htake _).append hpoint).append (hdrop _)).append hmore).append (asciiChars_toDigits _)

/-- A number is written with characters of the ASCII range. -/
lemma asciiChars_floatText (x : Float) : AsciiChars (floatText x) := by
  have hzero : AsciiChars ['0', '.', '0'] := by simp [AsciiChars]
  have hminus : AsciiChars ['-'] := by simp [AsciiChars]
  have hdigits := Digits.asciiChars_text (asciiChars_shortest (Binary.ofFloat x))
  unfold floatText
  dsimp only
  split_ifs
  · exact hminus.append hzero
  · exact hzero
  · exact hminus.append hdigits
  · exact hdigits

end Decimal

namespace Json

open Text (IsText)

/-- The byte of a character of the ASCII range is of that range. -/
lemma byte_lt {c : Char} (h : c.toNat < 128) : Ascii.byte c < 0x80 := by
  have hbyte : (Ascii.byte c).toNat = c.toNat :=
    UInt8.toNat_ofNat_of_lt' (Nat.lt_trans h (by decide))
  rw [UInt8.lt_iff_toNat_lt, hbyte]
  exact h

/-- What is written for an integer is a text. -/
lemma isText_writeInt (n : Int) : IsText (writeInt n) :=
  ⟨toString n, (bytesOf_toString n).symm⟩

/-- What is written for a number is a text. -/
lemma isText_writeFloat (x : Float) : IsText (writeFloat x) := by
  unfold writeFloat
  split_ifs
  · refine .of_ascii fun b hb => ?_
    obtain ⟨c, hc, rfl⟩ := List.mem_map.mp hb
    exact byte_lt (Decimal.asciiChars_floatText x c hc)
  · exact .of_ascii (by simp)

/-! ## Strings -/

/-- A byte of the ASCII range is escaped to bytes of that range. -/
lemma lt_of_mem_escapeByte {b c : UInt8} (hb : b < 0x80) (hc : c ∈ escapeByte b) : c < 0x80 := by
  have table : ∀ k : Fin 128, (escapeByte (UInt8.ofNat k)).all (· < 0x80) = true := by decide
  have hall := table ⟨b.toNat, UInt8.lt_iff_toNat_lt.mp hb⟩
  rw [UInt8.ofNat_toNat] at hall
  simpa using List.all_eq_true.mp hall c hc

/-- What is written for a character is a text. -/
lemma isText_escape (c : Char) : IsText ((String.utf8EncodeChar c).flatMap escapeByte) := by
  by_cases hascii : c.toNat < 128
  · rw [Text.utf8EncodeChar_of_toNat_lt hascii, List.flatMap_singleton]
    exact .of_ascii fun b hb => lt_of_mem_escapeByte (byte_lt hascii) hb
  · rw [flatMap_escapeByte_of_le (Nat.le_of_not_lt hascii)]
    exact .of_char c

/-- What is written for a string is a text. -/
lemma isText_writeString (s : String) : IsText (writeString s) := by
  have hquote : Ascii.quote < 0x80 := by decide
  rw [writeString, Text.bytesOf_eq_flatMap, List.flatMap_assoc]
  exact .cons hquote ((IsText.flatMap fun c _ => isText_escape c).append (.cons hquote .nil))

/-! ## Values -/

mutual

/-- What is written for a value is a text. -/
theorem isText_write : (v : Value) → IsText v.write
  | .null => .of_ascii (by simp [Value.write, writeNull])
  | .bool b => .of_ascii (by cases b <;> simp [Value.write, writeBool])
  | .integer n => isText_writeInt n.toInt
  | .float x => isText_writeFloat x
  | .string s => isText_writeString s
  | .array items =>
    .cons (by decide) ((isText_writeItems items).append (.cons (by decide) .nil))
  | .object members =>
    .cons (by decide) ((isText_writeMembers members).append (.cons (by decide) .nil))

/-- What is written for the items of a list is a text. -/
theorem isText_writeItems : (items : List Value) → IsText (writeItems items)
  | [] => .nil
  | [v] => isText_write v
  | v :: w :: items =>
    (isText_write v).append (.cons (by decide) (isText_writeItems (w :: items)))

/-- What is written for the members of an object is a text. -/
theorem isText_writeMembers : (members : List (String × Value)) → IsText (writeMembers members)
  | [] => .nil
  | [(key, v)] => (isText_writeString key).append (.cons (by decide) (isText_write v))
  | (key, v) :: w :: members =>
    ((isText_writeString key).append (.cons (by decide) (isText_write v))).append
      (.cons (by decide) (isText_writeMembers (w :: members)))

end

end Json

end ChainView
