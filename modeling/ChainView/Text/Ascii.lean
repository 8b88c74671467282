import ChainView.Text.Utf8

/-!
# The ASCII range

Names for the punctuation that the wire formats are made of, the classes of bytes that their
grammars mention, the digits of both bases, and lowercase, which touches no character beyond ASCII.
-/

namespace ChainView

namespace Ascii

/-- The byte of the double quote. -/
abbrev quote : UInt8 := 0x22

/-- The byte of the backslash. -/
abbrev backslash : UInt8 := 0x5C

/-- The byte of the slash. -/
abbrev slash : UInt8 := 0x2F

/-- The byte of the comma. -/
abbrev comma : UInt8 := 0x2C

/-- The byte of the colon. -/
abbrev colon : UInt8 := 0x3A

/-- The byte of the minus sign. -/
abbrev minus : UInt8 := 0x2D

/-- The byte of the plus sign. -/
abbrev plus : UInt8 := 0x2B

/-- The byte of the full stop. -/
abbrev point : UInt8 := 0x2E

/-- The byte that opens a list. -/
abbrev openBracket : UInt8 := 0x5B

/-- The byte that closes a list. -/
abbrev closeBracket : UInt8 := 0x5D

/-- The byte that opens an object. -/
abbrev openBrace : UInt8 := 0x7B

/-- The byte that closes an object. -/
abbrev closeBrace : UInt8 := 0x7D

/-- The byte of the digit zero. -/
abbrev zero : UInt8 := 0x30

/-- The byte of an ASCII character. -/
abbrev byte (c : Char) : UInt8 := c.toNat.toUInt8

/-- The value of a decimal digit. -/
def digit? (b : UInt8) : Option Nat :=
  if 0x30 ≤ b ∧ b ≤ 0x39 then some (b.toNat - 0x30) else none

/-- Whether a byte is a decimal digit. -/
def isDigit (b : UInt8) : Bool :=
  (digit? b).isSome

/-- The value of a hexadecimal digit of either case. -/
def hexDigit? (b : UInt8) : Option Nat :=
  if 0x30 ≤ b ∧ b ≤ 0x39 then some (b.toNat - 0x30)
  else if 0x61 ≤ b ∧ b ≤ 0x66 then some (b.toNat - 0x57)
  else if 0x41 ≤ b ∧ b ≤ 0x46 then some (b.toNat - 0x37)
  else none

/-- The lowercase hexadecimal digit of a value below sixteen. -/
def hexDigit (n : Nat) : UInt8 :=
  if n < 10 then (0x30 + n).toUInt8 else (0x57 + n).toUInt8

/-- A text with its ASCII letters in lowercase and every other character as it is. -/
def lowercase (s : String) : String :=
  String.ofList (s.toList.map Char.toLower)

/-- The decimal digits of a number, most significant first. -/
def decimal (n : Nat) : Bytes :=
  (Nat.toDigits 10 n).map byte

/-- Reading a written hexadecimal digit gives its value back. -/
theorem hexDigit?_hexDigit {n : Nat} (h : n < 16) : hexDigit? (hexDigit n) = some n := by
  have table : ∀ k : Fin 16, hexDigit? (hexDigit k) = some k.val := by decide
  exact table ⟨n, h⟩

/-- A written hexadecimal digit is a byte of the ASCII range. -/
theorem hexDigit_lt {n : Nat} (h : n < 16) : hexDigit n < 0x80 := by
  have table : ∀ k : Fin 16, hexDigit k < 0x80 := by decide
  exact table ⟨n, h⟩

/-- A hexadecimal digit has a value below sixteen. -/
theorem hexDigit?_lt {b : UInt8} {n : Nat} (h : hexDigit? b = some n) : n < 16 := by
  have table : ∀ k : Fin 256, ∀ m, hexDigit? (UInt8.ofNat k) = some m → m < 16 := by
    intro k m
    unfold hexDigit?
    split
    · rintro ⟨⟩
      rename_i hk
      have := UInt8.le_iff_toNat_le.mp hk.2
      simp at this ⊢
      omega
    · split
      · rintro ⟨⟩
        rename_i hk
        have := UInt8.le_iff_toNat_le.mp hk.2
        simp at this ⊢
        omega
      · split
        · rintro ⟨⟩
          rename_i hk
          have := UInt8.le_iff_toNat_le.mp hk.2
          simp at this ⊢
          omega
        · rintro ⟨⟩
  have hb : UInt8.ofNat b.toNat = b := UInt8.ofNat_toNat
  exact table ⟨b.toNat, b.toNat_lt⟩ n (by rw [← h]; simp)

end Ascii

end ChainView
