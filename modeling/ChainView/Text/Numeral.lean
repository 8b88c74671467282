import ChainView.Text.Utf8

/-!
# Numerals in settings

An unsigned number in a setting is written in ASCII decimal digits, with an optional plus sign in
front and any number of leading zeros.
-/

namespace ChainView.Text

/-- The value of a decimal digit. -/
def digitValue? (c : Char) : Option Nat :=
  if '0' ≤ c ∧ c ≤ '9' then some (c.toNat - '0'.toNat) else none

/-- The number that digits write behind the number `read`, if all characters are digits. -/
def digitsValue? (read : Nat) : List Char → Option Nat
  | [] => some read
  | c :: rest =>
    match digitValue? c with
    | some d => digitsValue? (read * 10 + d) rest
    | none => none

/-- The characters behind an optional plus sign. -/
def stripPlus : List Char → List Char
  | '+' :: rest => rest
  | cs => cs

/-- The unsigned number that a text writes, if it is below `bound`. -/
def unsigned? (bound : Nat) (s : String) : Option Nat :=
  match stripPlus s.toList with
  | [] => none
  | cs => (digitsValue? 0 cs).filter (· < bound)

/-- The unsigned 64-bit word that a text writes. -/
def word64? (s : String) : Option UInt64 :=
  (unsigned? UInt64.size s).map UInt64.ofNat

/-- The unsigned 16-bit word that a text writes. -/
def word16? (s : String) : Option UInt16 :=
  (unsigned? UInt16.size s).map UInt16.ofNat

end ChainView.Text
