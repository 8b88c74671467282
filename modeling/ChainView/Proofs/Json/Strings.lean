import Mathlib.Tactic.Common
import ChainView.Json.Chars
import ChainView.Json.Writer

/-!
# Strings are read back as written

A byte of a text is written in one of three ways: by an escape of one letter, by a numeric escape,
or as it stands.  In each of them the scanner leaves the place between two characters, gives out
that byte and nothing else, and comes back to the same place.  So the bytes of a text go through the
scanner one by one, and since they are UTF-8 they give the text back.  What follows the closing
quote is not looked at.
-/

namespace ChainView.Json

/-- The scanner passes over a byte to the place and with the output of its move. -/
lemma scanString_cons_of_go {place next : Place} {b : UInt8} {out : Bytes}
    (h : place.move b = .go next out) (read rest : Bytes) :
    scanString place read (b :: rest) = scanString next (out.reverse ++ read) rest := by
  rw [scanString, h]

/-- The scanner collects four digits and then does what they ask for. -/
lemma scanString_digits {high : Option ℕ} {ds out : Bytes} {next : Place} (hlength : ds.length = 4)
    (hend : endDigits high ds = .go next out) (read rest : Bytes) :
    scanString (.digits high []) read (ds ++ rest)
      = scanString next (out.reverse ++ read) rest := by
  -- the first three digits are collected, the fourth ends the escape
  have hdigit (seen : Bytes) (hseen : seen.length ≠ 3) (c : UInt8) :
      (Place.digits high seen).move c = .go (.digits high (seen ++ [c])) [] := if_neg hseen
  have hlast (c : UInt8) (seen : Bytes) (hseen : seen.length = 3) :
      (Place.digits high seen).move c = endDigits high (seen ++ [c]) := if_pos hseen
  obtain ⟨d₁, d₂, d₃, d₄, rfl⟩ : ∃ d₁ d₂ d₃ d₄, ds = [d₁, d₂, d₃, d₄] := by
    match ds, hlength with
    | [d₁, d₂, d₃, d₄], _ => exact ⟨d₁, d₂, d₃, d₄, rfl⟩
  simp only [List.cons_append, List.nil_append]
  rw [scanString_cons_of_go (hdigit _ (by simp) _), scanString_cons_of_go (hdigit _ (by simp) _),
    scanString_cons_of_go (hdigit _ (by simp) _),
    scanString_cons_of_go ((hlast _ _ rfl).trans hend)]
  rfl

/-! ## One byte of a text -/

/-- The three ways in which a byte of a text is written. -/
inductive Escaping (b : UInt8) : Bytes → Prop
  /-- By an escape of one letter. -/
  | letter {c : UInt8} (hc : c ≠ Ascii.byte 'u') (h : escaped? c = some b) :
      Escaping b [Ascii.backslash, c]
  /-- By the number of a control character. -/
  | number (h : b < 0x20) :
      Escaping b [Ascii.backslash, Ascii.byte 'u', Ascii.zero, Ascii.zero,
        Ascii.hexDigit (b.toNat / 16), Ascii.hexDigit (b.toNat % 16)]
  /-- As it stands. -/
  | raw (hquote : b ≠ Ascii.quote) (hbackslash : b ≠ Ascii.backslash) (h : ¬ b < 0x20) :
      Escaping b [b]

/-- Every byte is written in one of the three ways. -/
lemma escaping_escapeByte (b : UInt8) : Escaping b (escapeByte b) := by
  unfold escapeByte
  split_ifs with hquote hbackslash h₁ h₂ h₃ h₄ h₅ hcontrol
  · exact .letter (by decide) (by rw [hquote]; decide)
  · exact .letter (by decide) (by rw [hbackslash]; decide)
  · exact .letter (by decide) (by rw [h₁]; decide)
  · exact .letter (by decide) (by rw [h₂]; decide)
  · exact .letter (by decide) (by rw [h₃]; decide)
  · exact .letter (by decide) (by rw [h₄]; decide)
  · exact .letter (by decide) (by rw [h₅]; decide)
  · exact .number hcontrol
  · exact .raw hquote hbackslash hcontrol

/-- The four digits of a control character write its number. -/
lemma hexNumber?_of_lt {b : UInt8} (h : b < 0x20) :
    hexNumber? [Ascii.zero, Ascii.zero, Ascii.hexDigit (b.toNat / 16),
      Ascii.hexDigit (b.toNat % 16)] = some b.toNat := by
  have hlt : b.toNat < 32 := UInt8.lt_iff_toNat_lt.mp h
  have hzero : Ascii.hexDigit? Ascii.zero = some 0 := by decide
  have hhigh := Ascii.hexDigit?_hexDigit (n := b.toNat / 16) (by omega)
  have hlow := Ascii.hexDigit?_hexDigit (n := b.toNat % 16) (by omega)
  simp only [hexNumber?, List.foldl_cons, List.foldl_nil, Option.bind_some, hzero, hhigh, hlow,
    Option.map_some, Option.some.injEq]
  omega

/-- Behind the digits of a control character the scanner gives the character out. -/
lemma endDigits_of_lt {b : UInt8} (h : b < 0x20) :
    endDigits none [Ascii.zero, Ascii.zero, Ascii.hexDigit (b.toNat / 16),
      Ascii.hexDigit (b.toNat % 16)] = .go .text [b] := by
  have hlt : b.toNat < 32 := UInt8.lt_iff_toNat_lt.mp h
  have hlow : isLowSurrogate b.toNat = false := by simp [isLowSurrogate]; omega
  have hhigh : isHighSurrogate b.toNat = false := by simp [isHighSurrogate]; omega
  have hchar : charBytes b.toNat = [b] :=
    Text.utf8EncodeChar_of_ascii (UInt8.lt_iff_toNat_lt.mpr (Nat.lt_trans hlt (by decide)))
  simp only [endDigits, hexNumber?_of_lt h, hlow, hhigh, hchar]
  simp

/-- A byte goes through the scanner, in whichever way it is written. -/
lemma Escaping.scanString_append {b : UInt8} {text : Bytes} (h : Escaping b text)
    (read rest : Bytes) :
    scanString .text read (text ++ rest) = scanString .text (b :: read) rest := by
  have hescape : Place.text.move Ascii.backslash = .go .escape [] := rfl
  cases h with
  | @letter c hc hletter =>
    have hmove : Place.escape.move c = .go .text [b] := by
      simp only [Place.move, if_neg hc, hletter]
    simp only [List.cons_append, List.nil_append]
    rw [scanString_cons_of_go hescape, scanString_cons_of_go hmove]
    rfl
  | number hcontrol =>
    have hstart : Place.escape.move (Ascii.byte 'u') = .go (.digits none []) [] := rfl
    rw [List.cons_append, List.cons_append, scanString_cons_of_go hescape,
      scanString_cons_of_go hstart, scanString_digits rfl (endDigits_of_lt hcontrol)]
    rfl
  | raw hquote hbackslash hcontrol =>
    have hmove : Place.text.move b = .go .text [b] := by
      simp only [Place.move, if_neg hquote, if_neg hbackslash, if_neg hcontrol]
    rw [List.singleton_append, scanString_cons_of_go hmove]
    rfl

/-! ## Whole texts -/

/-- Bytes that are written and closed by a quote come out of the scanner behind those that it had
read before. -/
lemma scanString_written (bs read rest : Bytes) :
    scanString .text read (bs.flatMap escapeByte ++ Ascii.quote :: rest)
      = .ok (read.reverse ++ bs, rest) := by
  induction bs generalizing read with
  | nil =>
    have hclose : Place.text.move Ascii.quote = .close := rfl
    rw [List.flatMap_nil, List.nil_append, scanString, hclose, List.append_nil]
  | cons b bs ih =>
    rw [List.flatMap_cons, List.append_assoc, (escaping_escapeByte b).scanString_append, ih,
      List.reverse_cons, List.append_assoc, List.singleton_append]

/-- A text that is written is read back. -/
theorem stringBody_written (s : String) (rest : Bytes) :
    stringBody ((Text.bytesOf s).flatMap escapeByte ++ Ascii.quote :: rest) = .ok (s, rest) := by
  rw [stringBody, scanString_written]
  simp only [List.reverse_nil, List.nil_append, Text.ofBytes?_bytesOf]

/-- What is written for a text is the quote that opens it, and then what reads back. -/
lemma writeString_append (s : String) (rest : Bytes) :
    writeString s ++ rest =
      Ascii.quote :: ((Text.bytesOf s).flatMap escapeByte ++ Ascii.quote :: rest) := by
  simp only [writeString, List.cons_append, List.append_assoc, List.nil_append]

end ChainView.Json
