import ChainView.Json.Value
import ChainView.Json.Fault

/-!
# Reading numbers

A number without fraction and exponent is an integer if it fits a 64-bit word; negative zero and
everything else is a double-precision number.  Its value is formed from as many leading digits as
fit an unsigned word, the others counting only by their number, and from one multiplication or
division by a power of ten.
-/

namespace ChainView.Json

/-- Reads a value off the front of a text and returns what follows it. -/
abbrev Reader (α : Type) := Bytes → Except Fault (α × Bytes)

/-- A fault at the place before the bytes `rest`. -/
def failBefore {α : Type} (cause : Cause) (rest : Bytes) : Except Fault α :=
  .error ⟨cause, rest.length⟩

/-- A fault at the first of the bytes `rest`, which counts as seen: the place is behind it, or the
end of the text if there is none. -/
def failAt {α : Type} (cause : Cause) (rest : Bytes) : Except Fault α :=
  .error ⟨cause, rest.length - 1⟩

/-- Whether a digit leaves a significand within an unsigned word. -/
def fits (significand digit : Nat) : Bool :=
  significand * 10 + digit < UInt64.size

/-- Takes digits into the significand while it stays within an unsigned word, and counts them. -/
def takeDigits (significand count : Nat) : Bytes → Nat × Nat × Bytes
  | [] => (significand, count, [])
  | b :: rest =>
    match Ascii.digit? b with
    | some d =>
      if fits significand d then takeDigits (significand * 10 + d) (count + 1) rest
      else (significand, count, b :: rest)
    | none => (significand, count, b :: rest)

/-- Passes over digits and counts them. -/
def passDigits (count : Nat) : Bytes → Nat × Bytes
  | [] => (count, [])
  | b :: rest => if Ascii.isDigit b then passDigits (count + 1) rest else (count, b :: rest)

/-- The greatest exponent that is read as such. -/
def exponentLimit : Nat := 2147483647

/-- Takes the digits of an exponent, up to and including the one that passes the limit. -/
def takeExponent (exponent : Nat) : Bytes → Nat × Bytes
  | [] => (exponent, [])
  | b :: rest =>
    match Ascii.digit? b with
    | some d =>
      if exponent * 10 + d ≤ exponentLimit then takeExponent (exponent * 10 + d) rest
      else (exponent * 10 + d, rest)
    | none => (exponent, b :: rest)

/-- The power of ten as a double-precision number. -/
def powerOfTen (n : Nat) : Float :=
  Float.ofScientific 1 false n

/-- The greatest power of ten in double precision. -/
def greatestPower : Nat := 308

/-- The magnitude `significand * 10 ^ exponent`, unless it is too large. -/
def scaled (significand : Nat) (exponent : Int) : Option Float :=
  let f := (UInt64.ofNat significand).toFloat
  let n := exponent.natAbs
  if 0 ≤ exponent then
    if n ≤ greatestPower then
      let x := f * powerOfTen n
      if x.isInf then none else some x
    else if significand = 0 then some 0
    else none
  else if n ≤ greatestPower then some (f / powerOfTen n)
  else if n ≤ 2 * greatestPower then
    some (f / powerOfTen greatestPower / powerOfTen (n - greatestPower))
  else some 0

/-- A magnitude with its sign. -/
def signed (negative : Bool) (x : Float) : Float :=
  if negative then -x else x

/-- The number `significand * 10 ^ exponent` with its sign, a fault if it is too large. -/
def finish (negative : Bool) (significand : Nat) (exponent : Int) (rest : Bytes) :
    Except Fault (Value × Bytes) :=
  match scaled significand exponent with
  | some x => .ok (.float (signed negative x), rest)
  | none => failBefore .numberTooLarge rest

/-- Reads an exponent, its letter passed, and finishes the number. -/
def exponentPart (negative : Bool) (significand : Nat) (exponent : Int) (bs : Bytes) :
    Except Fault (Value × Bytes) :=
  let (down, unsigned) :=
    match bs with
    | b :: rest =>
      if b = Ascii.plus then (false, rest)
      else if b = Ascii.minus then (true, rest)
      else (false, bs)
    | [] => (false, bs)
  match unsigned with
  | [] => failBefore .endInValue []
  | b :: rest =>
    match Ascii.digit? b with
    | none => failBefore .badNumber rest
    | some d =>
      let (e, rest) := takeExponent d rest
      if e ≤ exponentLimit then
        finish negative significand (if down then exponent - e else exponent + e) rest
      else if significand ≠ 0 ∧ down = false then failBefore .numberTooLarge rest
      else .ok (.float (signed negative 0), (passDigits 0 rest).2)

/-- Finishes a number whose digits are read: an exponent may follow. -/
def afterDigits (negative : Bool) (significand : Nat) (exponent : Int) (bs : Bytes) :
    Except Fault (Value × Bytes) :=
  match bs with
  | b :: rest =>
    if b = Ascii.byte 'e' ∨ b = Ascii.byte 'E' then
      exponentPart negative significand exponent rest
    else finish negative significand exponent bs
  | [] => finish negative significand exponent bs

/-- Reads a fraction, its point passed, and finishes the number. -/
def fractionPart (negative : Bool) (significand : Nat) (exponent : Int) (bs : Bytes) :
    Except Fault (Value × Bytes) :=
  let (significand, taken, rest) := takeDigits significand 0 bs
  let (passed, rest) := passDigits 0 rest
  if taken + passed = 0 then
    if rest.isEmpty then failAt .endInValue rest else failAt .badNumber rest
  else afterDigits negative significand (exponent - taken) rest

/-- An integer literal as a value: exact if it fits a word, negative zero as a float. -/
def integerValue (negative : Bool) (significand : Nat) : Value :=
  match Integer.ofInt? (if negative then -(significand : Int) else significand) with
  | some n =>
    if negative ∧ significand = 0 then .float (signed negative 0) else .integer n
  | none => .float (signed negative (UInt64.ofNat significand).toFloat)

/-- Reads what follows the integer digits: `passed` of them did not fit the significand. -/
def afterInteger (negative : Bool) (significand passed : Nat) (bs : Bytes) :
    Except Fault (Value × Bytes) :=
  match bs with
  | b :: rest =>
    if b = Ascii.point then fractionPart negative significand passed rest
    else if b = Ascii.byte 'e' ∨ b = Ascii.byte 'E' then
      exponentPart negative significand passed rest
    else if passed = 0 then .ok (integerValue negative significand, bs)
    else finish negative significand passed bs
  | [] =>
    if passed = 0 then .ok (integerValue negative significand, bs)
    else finish negative significand passed bs

/-- Reads a number behind its sign. -/
def magnitude (negative : Bool) : Reader Value
  | [] => failBefore .endInValue []
  | b :: rest =>
    match Ascii.digit? b with
    | none => failBefore .badNumber rest
    | some 0 =>
      match rest with
      | c :: _ => if Ascii.isDigit c then failAt .badNumber rest else afterInteger negative 0 0 rest
      | [] => afterInteger negative 0 0 rest
    | some d =>
      let (significand, _, rest) := takeDigits d 0 rest
      let (passed, rest) := passDigits 0 rest
      afterInteger negative significand passed rest

/-- Reads a number. -/
def number : Reader Value
  | b :: rest => if b = Ascii.minus then magnitude true rest else magnitude false (b :: rest)
  | [] => failBefore .endInValue []

end ChainView.Json
