import ChainView.Decimal.Shortest

/-!
# Decimal notation of floating-point numbers

How the shortest digits of a number are laid out on the wire: positionally, always with a decimal
point, while the leading digit counts between `10 ^ -5` and `10 ^ 15`, and in scientific form with
a signed exponent beyond.
-/

namespace ChainView.Decimal

/-- The least exponent of the leading digit that is written positionally. -/
def leastPositional : Int := -5

/-- The greatest exponent of the leading digit that is written positionally. -/
def greatestPositional : Int := 15

/-- The text of a positive decimal. -/
def Digits.text (d : Digits) : List Char :=
  let count := d.digits.length
  if leastPositional ≤ d.exponent ∧ d.exponent < 0 then
    ['0', '.'] ++ List.replicate (-d.exponent - 1).toNat '0' ++ d.digits
  else if 0 ≤ d.exponent ∧ d.exponent ≤ greatestPositional then
    let whole := d.exponent.toNat + 1
    if count ≤ whole then d.digits ++ List.replicate (whole - count) '0' ++ ['.', '0']
    else d.digits.take whole ++ ['.'] ++ d.digits.drop whole
  else
    let mantissa := if count = 1 then d.digits else d.digits.take 1 ++ ['.'] ++ d.digits.drop 1
    let sign := if d.exponent < 0 then '-' else '+'
    mantissa ++ ['e', sign] ++ Nat.toDigits 10 d.exponent.natAbs

/-- The bit of a negative number. -/
def signBit : UInt64 := 0x8000000000000000

/-- The text of a finite floating-point number. -/
def floatText (x : Float) : List Char :=
  let sign := if signBit ≤ x.toBits then ['-'] else []
  let b := Binary.ofFloat x
  if b.m = 0 then sign ++ ['0', '.', '0'] else sign ++ (shortest b).text

end ChainView.Decimal
