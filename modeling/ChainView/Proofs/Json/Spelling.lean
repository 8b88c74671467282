import Mathlib.Data.List.Basic
import ChainView.Proofs.Json.Strings

/-!
# Strings are read in every spelling

JSON leaves open how a character of a string is spelled: as it stands, by an escape of one letter if
it has one, or by numeric escapes, one or two of them, with digits of either case.  `Spelling` lists
the ways, and the scanner gives out the character in each of them.  So a text is read back from
every string that spells it, and what is written for it is one of these.
-/

namespace ChainView.Json

/-! ## One character -/

/-- The escapes of one letter: the character and the letter. -/
def letterEscapes : List (Char × UInt8) := [
  ('"', Ascii.quote),
  ('\\', Ascii.backslash),
  ('/', Ascii.slash),
  ('\x08', Ascii.byte 'b'),
  ('\x0C', Ascii.byte 'f'),
  ('\n', Ascii.byte 'n'),
  ('\r', Ascii.byte 'r'),
  ('\t', Ascii.byte 't')]

/-- The ways in which a character of a string is spelled. -/
inductive Spelling (c : Char) : Bytes → Prop
  /-- As it stands, unless it is a quote, a backslash or a control character. -/
  | raw (hquote : c ≠ '"') (hbackslash : c ≠ '\\') (hcontrol : 0x20 ≤ c.toNat) :
      Spelling c (String.utf8EncodeChar c)
  /-- By an escape of one letter. -/
  | letter {l : UInt8} (h : (c, l) ∈ letterEscapes) : Spelling c [Ascii.backslash, l]
  /-- By a numeric escape. -/
  | number {ds : Bytes} (hlength : ds.length = 4) (h : hexNumber? ds = some c.toNat) :
      Spelling c (Ascii.backslash :: Ascii.byte 'u' :: ds)
  /-- By the two numeric escapes of a surrogate pair. -/
  | pair {hs ls : Bytes} (hhigh : hs.length = 4) (hlow : ls.length = 4) (hc : 0x10000 ≤ c.toNat)
      (h : hexNumber? hs = some (0xD800 + (c.toNat - 0x10000) / 0x400))
      (hl : hexNumber? ls = some (0xDC00 + (c.toNat - 0x10000) % 0x400)) :
      Spelling c (Ascii.backslash :: Ascii.byte 'u' ::
        (hs ++ Ascii.backslash :: Ascii.byte 'u' :: ls))

/-- The bytes of a character beyond the ASCII range are beyond it too. -/
lemma le_of_mem_utf8EncodeChar {c : Char} (hc : 128 ≤ c.toNat) {b : UInt8}
    (hb : b ∈ String.utf8EncodeChar c) : 128 ≤ b.toNat := by
  have hvalid := c.valid
  have hval : c.val.toNat = c.toNat := rfl
  simp only [String.utf8EncodeChar, hval] at hb
  rw [if_neg (by omega)] at hb
  split_ifs at hb <;> simp only [List.mem_cons, List.not_mem_nil, or_false] at hb <;>
    rcases hb with rfl | rfl | rfl | rfl <;> simp <;> omega

/-- The bytes of a character that may stand as it is may stand as they are. -/
lemma raw_of_mem_utf8EncodeChar {c : Char} (hquote : c ≠ '"') (hbackslash : c ≠ '\\')
    (hcontrol : 0x20 ≤ c.toNat) {b : UInt8} (hb : b ∈ String.utf8EncodeChar c) :
    b ≠ Ascii.quote ∧ b ≠ Ascii.backslash ∧ ¬ b < 0x20 := by
  have hraw : b.toNat ≠ 0x22 ∧ b.toNat ≠ 0x5C ∧ 0x20 ≤ b.toNat := by
    by_cases hascii : c.toNat < 128
    · rw [Text.utf8EncodeChar_of_toNat_lt hascii, List.mem_singleton] at hb
      have hbyte : b.toNat = c.toNat := by
        rw [hb]
        exact UInt8.toNat_ofNat_of_lt' (Nat.lt_trans hascii (by decide))
      rw [hbyte]
      exact ⟨fun h => hquote (Char.toNat_inj.mp h), fun h => hbackslash (Char.toNat_inj.mp h),
        hcontrol⟩
    · have hle := le_of_mem_utf8EncodeChar (Nat.le_of_not_lt hascii) hb
      omega
  refine ⟨?_, ?_, ?_⟩
  · rintro rfl
    exact hraw.1 rfl
  · rintro rfl
    exact hraw.2.1 rfl
  · rw [UInt8.lt_iff_toNat_lt]
    exact Nat.not_lt.mpr hraw.2.2

/-- Bytes that may stand as they are go through the scanner one by one. -/
lemma scanString_raw {bs : Bytes}
    (h : ∀ b ∈ bs, b ≠ Ascii.quote ∧ b ≠ Ascii.backslash ∧ ¬ b < 0x20) (read rest : Bytes) :
    scanString .text read (bs ++ rest) = scanString .text (bs.reverse ++ read) rest := by
  induction bs generalizing read with
  | nil => rfl
  | cons b bs ih =>
    obtain ⟨⟨hquote, hbackslash, hcontrol⟩, hbs⟩ := List.forall_mem_cons.mp h
    have hfirst := (Escaping.raw hquote hbackslash hcontrol).scanString_append read (bs ++ rest)
    rw [List.singleton_append] at hfirst
    rw [List.cons_append, hfirst, ih hbs, List.reverse_cons, List.append_assoc]
    rfl

/-- A character is no surrogate. -/
lemma not_surrogate (c : Char) :
    isLowSurrogate c.toNat = false ∧ isHighSurrogate c.toNat = false := by
  have hvalid := c.valid
  have hval : c.val.toNat = c.toNat := rfl
  simp only [UInt32.isValidChar, Nat.isValidChar] at hvalid
  simp only [isLowSurrogate, isHighSurrogate, Bool.and_eq_false_iff, decide_eq_false_iff_not]
  omega

/-- The bytes at the code point of a character are those of the character. -/
lemma charBytes_toNat (c : Char) : charBytes c.toNat = String.utf8EncodeChar c := by
  rw [charBytes, Char.ofNat_toNat]

/-- Behind the digits of a character the text goes on. -/
lemma endDigits_of_char {c : Char} {ds : Bytes} (h : hexNumber? ds = some c.toNat) :
    endDigits none ds = .go .text (String.utf8EncodeChar c) := by
  obtain ⟨hlow, hhigh⟩ := not_surrogate c
  simp only [endDigits, h, hlow, hhigh, charBytes_toNat, Bool.false_eq_true, if_false]

/-- Behind the digits of the first half of a surrogate pair the second half is due. -/
lemma endDigits_of_high {ds : Bytes} {n : Nat} (h : hexNumber? ds = some (0xD800 + n))
    (hn : n < 0x400) : endDigits none ds = .go (.pairBackslash (0xD800 + n)) [] := by
  have hhigh : isHighSurrogate (0xD800 + n) = true := by
    simp only [isHighSurrogate, Bool.and_eq_true, decide_eq_true_eq]
    omega
  have hlow : isLowSurrogate (0xD800 + n) = false := by
    simp only [isLowSurrogate, Bool.and_eq_false_iff, decide_eq_false_iff_not]
    omega
  simp only [endDigits, h, hlow, hhigh, Bool.false_eq_true, if_false, if_true]

/-- Behind the digits of the second half of a surrogate pair the text goes on, with the character
that the two halves make. -/
lemma endDigits_of_low {ds : Bytes} {n k : Nat} (h : hexNumber? ds = some (0xDC00 + k))
    (hk : k < 0x400) :
    endDigits (some (0xD800 + n)) ds = .go .text (charBytes (0x10000 + n * 0x400 + k)) := by
  have hlow : isLowSurrogate (0xDC00 + k) = true := by
    simp only [isLowSurrogate, Bool.and_eq_true, decide_eq_true_eq]
    omega
  simp only [endDigits, h, hlow, if_true, Nat.add_sub_cancel_left]

/-- A character goes through the scanner, in whichever way it is spelled. -/
lemma Spelling.scanString_append {c : Char} {bs : Bytes} (h : Spelling c bs) (read rest : Bytes) :
    scanString .text read (bs ++ rest) =
      scanString .text ((String.utf8EncodeChar c).reverse ++ read) rest := by
  have hescape : Place.text.move Ascii.backslash = .go .escape [] := rfl
  have hstart : Place.escape.move (Ascii.byte 'u') = .go (.digits none []) [] := rfl
  cases h with
  | raw hquote hbackslash hcontrol =>
    exact scanString_raw (fun b hb => raw_of_mem_utf8EncodeChar hquote hbackslash hcontrol hb) _ _
  | @letter l h =>
    have htable : ∀ p ∈ letterEscapes, p.2 ≠ Ascii.byte 'u' ∧
        ∃ b, escaped? p.2 = some b ∧ String.utf8EncodeChar p.1 = [b] := by
      simp only [letterEscapes, List.forall_mem_cons]
      exact ⟨⟨by decide, _, rfl, rfl⟩, ⟨by decide, _, rfl, rfl⟩, ⟨by decide, _, rfl, rfl⟩,
        ⟨by decide, _, rfl, rfl⟩, ⟨by decide, _, rfl, rfl⟩, ⟨by decide, _, rfl, rfl⟩,
        ⟨by decide, _, rfl, rfl⟩, ⟨by decide, _, rfl, rfl⟩, List.forall_mem_nil _⟩
    obtain ⟨hl, b, hletter, hencode⟩ := htable _ h
    rw [hencode]
    exact (Escaping.letter hl hletter).scanString_append read rest
  | @number ds hlength h =>
    simp only [List.cons_append]
    rw [scanString_cons_of_go hescape, scanString_cons_of_go hstart,
      scanString_digits hlength (endDigits_of_char h)]
    rfl
  | @pair hs ls hhs hls hc h hl =>
    -- the offset is divided between the two halves, ten bits to each
    obtain ⟨high, hhigh⟩ : ∃ high, high = (c.toNat - 0x10000) / 0x400 := ⟨_, rfl⟩
    obtain ⟨low, hlow⟩ : ∃ low, low = (c.toNat - 0x10000) % 0x400 := ⟨_, rfl⟩
    rw [← hhigh] at h
    rw [← hlow] at hl
    have hvalid := c.valid
    have hval : c.val.toNat = c.toNat := rfl
    simp only [UInt32.isValidChar, Nat.isValidChar] at hvalid
    have hsum : 0x10000 + high * 0x400 + low = c.toNat := by omega
    have hfirst := endDigits_of_high h (by omega)
    have hsecond := endDigits_of_low (n := high) hl (by omega)
    rw [hsum, charBytes_toNat] at hsecond
    have hbackslash : (Place.pairBackslash (0xD800 + high)).move Ascii.backslash =
        .go (.pairLetter (0xD800 + high)) [] := rfl
    have hletter : (Place.pairLetter (0xD800 + high)).move (Ascii.byte 'u') =
        .go (.digits (some (0xD800 + high)) []) [] := rfl
    simp only [List.cons_append, List.append_assoc]
    rw [scanString_cons_of_go hescape, scanString_cons_of_go hstart, scanString_digits hhs hfirst,
      scanString_cons_of_go hbackslash, scanString_cons_of_go hletter,
      scanString_digits hls hsecond]
    rfl

/-! ## Whole texts -/

/-- The bytes spell the characters of a text, one after the other. -/
inductive Spelled : List Char → Bytes → Prop
  /-- There are none. -/
  | nil : Spelled [] []
  /-- The first character is spelled, and then the others. -/
  | cons {c : Char} {cs : List Char} {first rest : Bytes} (hc : Spelling c first)
      (h : Spelled cs rest) : Spelled (c :: cs) (first ++ rest)

/-- Characters that are spelled and closed by a quote come out of the scanner behind what it had
read before. -/
lemma Spelled.scanString {cs : List Char} {bs : Bytes} (h : Spelled cs bs) (read rest : Bytes) :
    scanString .text read (bs ++ Ascii.quote :: rest) =
      .ok (read.reverse ++ cs.flatMap String.utf8EncodeChar, rest) := by
  induction h generalizing read with
  | nil =>
    have hclose : Place.text.move Ascii.quote = .close := rfl
    rw [List.nil_append, Json.scanString, hclose, List.flatMap_nil, List.append_nil]
  | cons hc _ ih =>
    rw [List.append_assoc, hc.scanString_append, ih, List.reverse_append, List.reverse_reverse,
      List.flatMap_cons, List.append_assoc]

/-- A text is read back from every string that spells it. -/
theorem stringBody_of_spelled {s : String} {bs : Bytes} (h : Spelled s.toList bs) (rest : Bytes) :
    stringBody (bs ++ Ascii.quote :: rest) = .ok (s, rest) := by
  rw [stringBody, h.scanString, ← Text.bytesOf_eq_flatMap]
  simp only [List.reverse_nil, List.nil_append, Text.ofBytes?_bytesOf]

/-! ## What is written -/

/-- A byte beyond the ASCII range is written as it stands. -/
lemma escapeByte_of_le {b : UInt8} (hb : 128 ≤ b.toNat) : escapeByte b = [b] := by
  have hne : ∀ a : UInt8, a.toNat < 128 → b ≠ a := by
    rintro a ha rfl
    omega
  have hcontrol : ¬ b < 0x20 := by
    rw [UInt8.lt_iff_toNat_lt]
    exact Nat.not_lt.mpr (Nat.le_trans (by decide) hb)
  have hplain : b ≠ Ascii.quote ∧ b ≠ Ascii.backslash ∧ b ≠ 0x08 ∧ b ≠ 0x0C ∧ b ≠ 0x0A ∧
      b ≠ 0x0D ∧ b ≠ 0x09 := by
    refine ⟨?_, ?_, ?_, ?_, ?_, ?_, ?_⟩ <;> exact hne _ (by decide)
  simp only [escapeByte, hplain, hcontrol, if_false]

/-- The bytes of a character beyond the ASCII range stand as they are. -/
lemma flatMap_escapeByte_of_le {c : Char} (hc : 128 ≤ c.toNat) :
    (String.utf8EncodeChar c).flatMap escapeByte = String.utf8EncodeChar c := by
  conv_rhs => rw [← List.flatMap_singleton' (String.utf8EncodeChar c)]
  exact List.flatMap_congr fun b hb => escapeByte_of_le (le_of_mem_utf8EncodeChar hc hb)

/-- What is written for the byte of a character of the ASCII range spells the character. -/
lemma spelling_escapeByte {c : Char} {b : UInt8} (hb : b.toNat = c.toNat) (hascii : c.toNat < 128) :
    Spelling c (escapeByte b) := by
  have hiff : ∀ (d : UInt8) (e : Char), d.toNat = e.toNat → (b = d ↔ c = e) := by
    intro d e hde
    rw [← UInt8.toNat_inj, ← Char.toNat_inj, hb, hde]
  have hletter : ∀ (d l : UInt8) (e : Char), d.toNat = e.toNat → (e, l) ∈ letterEscapes → b = d →
      Spelling c [Ascii.backslash, l] := by
    intro d l e hde hmem hbd
    rw [(hiff d e hde).mp hbd]
    exact .letter hmem
  unfold escapeByte
  split_ifs with hquote hbackslash h₁ h₂ h₃ h₄ h₅ hcontrol
  · exact hletter _ _ '"' rfl (by decide) hquote
  · exact hletter _ _ '\\' rfl (by decide) hbackslash
  · exact hletter _ _ '\x08' rfl (by decide) h₁
  · exact hletter _ _ '\x0C' rfl (by decide) h₂
  · exact hletter _ _ '\n' rfl (by decide) h₃
  · exact hletter _ _ '\r' rfl (by decide) h₄
  · exact hletter _ _ '\t' rfl (by decide) h₅
  · exact .number rfl (by rw [← hb]; exact hexNumber?_of_lt hcontrol)
  · have hencode : String.utf8EncodeChar c = [b] := by
      rw [Text.utf8EncodeChar_of_toNat_lt hascii, ← hb, UInt8.ofNat_toNat]
    rw [UInt8.lt_iff_toNat_lt, hb, Nat.not_lt] at hcontrol
    rw [← hencode]
    exact .raw (mt (hiff _ _ rfl).mpr hquote) (mt (hiff _ _ rfl).mpr hbackslash) hcontrol

/-- What is written for the bytes of a character spells it. -/
lemma spelling_written (c : Char) : Spelling c ((String.utf8EncodeChar c).flatMap escapeByte) := by
  by_cases hascii : c.toNat < 128
  · have hbyte : (UInt8.ofNat c.toNat).toNat = c.toNat :=
      UInt8.toNat_ofNat_of_lt' (Nat.lt_trans hascii (by decide))
    rw [Text.utf8EncodeChar_of_toNat_lt hascii, List.flatMap_singleton]
    exact spelling_escapeByte hbyte hascii
  · have hle : 128 ≤ c.toNat := Nat.le_of_not_lt hascii
    rw [flatMap_escapeByte_of_le hle]
    refine .raw ?_ ?_ (Nat.le_trans (by decide) hle)
    · rintro rfl
      exact hascii (by decide)
    · rintro rfl
      exact hascii (by decide)

/-- What is written for a text spells it. -/
lemma spelled_written (s : String) :
    Spelled s.toList ((Text.bytesOf s).flatMap escapeByte) := by
  have hall : ∀ cs : List Char,
      Spelled cs ((cs.flatMap String.utf8EncodeChar).flatMap escapeByte) := by
    intro cs
    induction cs with
    | nil => exact .nil
    | cons c cs ih =>
      rw [List.flatMap_cons, List.flatMap_append]
      exact .cons (spelling_written c) ih
  rw [Text.bytesOf_eq_flatMap]
  exact hall s.toList

end ChainView.Json
