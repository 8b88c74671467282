/-!
# The shortest decimal that names a binary fraction

A binary floating-point number stands for every real that rounds to it.  Among the decimals in that
interval this file finds one with the fewest significant digits, and of those the nearest to the
number itself; an exact tie goes to the even digit.  All arithmetic is on natural numbers.
-/

namespace ChainView.Decimal

/-- A positive binary fraction `m * 2 ^ q`, with the spacing of the representable numbers around
it: `narrowBelow` holds when the neighbour below is only half as far away as the one above. -/
structure Binary where
  /-- The integer coefficient. -/
  m : Nat
  /-- The binary exponent. -/
  q : Int
  /-- Whether the gap below is half the gap above. -/
  narrowBelow : Bool

/-- The bit that every number of the normal range has in front of its fraction. -/
def implicitBit : Nat := 4503599627370496

/-- The magnitude of a finite double-precision number. -/
def Binary.ofFloat (x : Float) : Binary :=
  let bits := x.toBits.toNat
  let fraction := bits % implicitBit
  let exponent := bits / implicitBit % 2048
  if exponent = 0 then ⟨fraction, -1074, false⟩
  else ⟨fraction + implicitBit, (exponent : Int) - 1075, fraction = 0 && 1 < exponent⟩

/-- A number as a fraction of two naturals, together with the ends of the interval of reals that
round to it over the same denominator. -/
structure Interval where
  /-- Numerator of the lower end. -/
  low : Nat
  /-- Numerator of the number. -/
  mid : Nat
  /-- Numerator of the upper end. -/
  high : Nat
  /-- The common denominator. -/
  den : Nat
  /-- Whether the ends themselves round to the number. -/
  closed : Bool

/-- The interval of a binary fraction: half a gap to either side. -/
def Binary.interval (b : Binary) : Interval :=
  let up := Nat.pow 2 (b.q - 2).toNat
  let down := Nat.pow 2 (2 - b.q).toNat
  ⟨(4 * b.m - if b.narrowBelow then 1 else 2) * up, 4 * b.m * up, (4 * b.m + 2) * up, down,
    b.m % 2 = 0⟩

/-- Multiplication of the whole interval by a power of ten, of either sign. -/
def Interval.scale (r : Interval) (k : Int) : Interval :=
  let f := Nat.pow 10 k.toNat
  ⟨r.low * f, r.mid * f, r.high * f, r.den * Nat.pow 10 (-k).toNat, r.closed⟩

/-- Whether the integer `n` lies in the interval. -/
def Interval.contains (r : Interval) (n : Nat) : Bool :=
  if r.closed then r.low ≤ n * r.den && n * r.den ≤ r.high
  else r.low < n * r.den && n * r.den < r.high

/-- The integer next to the number that lies in the interval, if there is one; of two, the nearer,
and of two equally near, the even one. -/
def Interval.integer? (r : Interval) : Option Nat :=
  let below := r.mid / r.den
  let above := below + 1
  match r.contains below && below ≠ 0, r.contains above with
  | true, true =>
    let toBelow := r.mid - below * r.den
    let toAbove := above * r.den - r.mid
    if toBelow < toAbove || (toBelow = toAbove && below % 2 = 0) then some below else some above
  | true, false => some below
  | false, true => some above
  | false, false => none

/-- The exponent of the leading decimal digit of a positive fraction. -/
def leadingExponent (num den : Nat) : Int :=
  let guess : Int := (Nat.toDigits 10 num).length - (Nat.toDigits 10 den).length
  let reached := den * Nat.pow 10 guess.toNat ≤ num * Nat.pow 10 (-guess).toNat
  if reached then guess else guess - 1

/-- A positive decimal: its significant digits, without trailing zeros, and the exponent of the
first of them. -/
structure Digits where
  /-- The significant digits, most significant first. -/
  digits : List Char
  /-- The power of ten that the first digit counts. -/
  exponent : Int

/-- The decimal `n * 10 ^ k`. -/
def Digits.ofScaled (n : Nat) (k : Int) : Digits :=
  let ds := Nat.toDigits 10 n
  let kept := (ds.reverse.dropWhile (· = '0')).reverse
  ⟨kept, k + ds.length - 1⟩

/-- The search for the fewest digits: grids of `count`, `count + 1`, … significant digits are
tried in turn, `more` further ones at most. -/
def searchGrids (r : Interval) (lead : Int) : (more count : Nat) → Option Digits
  | 0, _ => none
  | more + 1, count =>
    let k := lead - (count : Int) + 1
    match (r.scale (-k)).integer? with
    | some n => some (Digits.ofScaled n k)
    | none => searchGrids r lead more (count + 1)

/-- The shortest decimal that names a positive binary fraction.  Seventeen digits always suffice
for double precision, so the search succeeds. -/
def shortest (b : Binary) : Digits :=
  let r := b.interval
  (searchGrids r (leadingExponent r.mid r.den) 17 1).getD ⟨['0'], 0⟩

end ChainView.Decimal
