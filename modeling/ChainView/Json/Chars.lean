import ChainView.Json.Number

/-!
# Reading strings and words

A string is scanned one byte at a time by a small machine.  It knows whether it stands between
characters, behind a backslash, among the four digits of a numeric escape, or between the two
escapes of a surrogate pair.  That the bytes it gives out are UTF-8 is checked once the closing
quote is reached.
-/

namespace ChainView.Json

/-- Where the scanner of a string stands. -/
inductive Place where
  /-- Between characters. -/
  | text
  /-- Behind a backslash. -/
  | escape
  /-- Among the digits of a numeric escape; `high` is the first half of a surrogate pair. -/
  | digits (high : Option Nat) (seen : List UInt8)
  /-- Behind the first half of a surrogate pair. -/
  | pairBackslash (high : Nat)
  /-- Behind the backslash that follows the first half of a surrogate pair. -/
  | pairLetter (high : Nat)
  deriving DecidableEq

/-- What the scanner does with a byte. -/
inductive Move where
  /-- Goes on at a place, having read some bytes of the text. -/
  | go (next : Place) (out : Bytes)
  /-- Reaches the end of the string. -/
  | close
  /-- Stops at a fault. -/
  | stop (cause : Cause)

/-- The byte that an escape of one letter stands for. -/
def escaped? (b : UInt8) : Option UInt8 :=
  if b = Ascii.quote ∨ b = Ascii.backslash ∨ b = Ascii.slash then some b
  else if b = Ascii.byte 'b' then some 0x08
  else if b = Ascii.byte 'f' then some 0x0C
  else if b = Ascii.byte 'n' then some 0x0A
  else if b = Ascii.byte 'r' then some 0x0D
  else if b = Ascii.byte 't' then some 0x09
  else none

/-- The number that four hexadecimal digits write. -/
def hexNumber? (ds : List UInt8) : Option Nat :=
  ds.foldl (fun n d => n.bind fun n => (Ascii.hexDigit? d).map (n * 16 + ·)) (some 0)

/-- Whether a code unit is the first half of a surrogate pair. -/
def isHighSurrogate (n : Nat) : Bool := 0xD800 ≤ n && n ≤ 0xDBFF

/-- Whether a code unit is the second half of a surrogate pair. -/
def isLowSurrogate (n : Nat) : Bool := 0xDC00 ≤ n && n ≤ 0xDFFF

/-- The bytes of the character at a code point. -/
def charBytes (n : Nat) : Bytes :=
  String.utf8EncodeChar (Char.ofNat n)

/-- The move behind the fourth digit of a numeric escape. -/
def endDigits (high : Option Nat) (ds : List UInt8) : Move :=
  match hexNumber? ds with
  | none => .stop .badEscape
  | some n =>
    match high with
    | none =>
      if isLowSurrogate n then .stop .loneSurrogate
      else if isHighSurrogate n then .go (.pairBackslash n) []
      else .go .text (charBytes n)
    | some h =>
      if isLowSurrogate n then .go .text (charBytes (0x10000 + (h - 0xD800) * 0x400 + (n - 0xDC00)))
      else .stop .loneSurrogate

/-- What the scanner does with the byte `b`. -/
def Place.move (place : Place) (b : UInt8) : Move :=
  match place with
  | .text =>
    if b = Ascii.quote then .close
    else if b = Ascii.backslash then .go .escape []
    else if b < 0x20 then .stop .controlCharacter
    else .go .text [b]
  | .escape =>
    if b = Ascii.byte 'u' then .go (.digits none []) []
    else
      match escaped? b with
      | some c => .go .text [c]
      | none => .stop .badEscape
  | .digits high seen =>
    if seen.length = 3 then endDigits high (seen ++ [b]) else .go (.digits high (seen ++ [b])) []
  | .pairBackslash high =>
    if b = Ascii.backslash then .go (.pairLetter high) [] else .stop .noSecondSurrogate
  | .pairLetter high =>
    if b = Ascii.byte 'u' then .go (.digits (some high) []) [] else .stop .noSecondSurrogate

/-- Scans a string from a place within it to its closing quote; `read` are the bytes of the text
so far, last first. -/
def scanString (place : Place) (read : Bytes) : Reader Bytes
  | [] => failBefore .endInString []
  | b :: rest =>
    match place.move b with
    | .go next out => scanString next (out.reverse ++ read) rest
    | .close => .ok (read.reverse, rest)
    | .stop cause => failBefore cause rest

/-- Reads a string whose opening quote is passed.  The fault of bytes that are no text lies as far
before the end of the string as there are bytes, escapes resolved, from the first bad one on. -/
def stringBody (bs : Bytes) : Except Fault (String × Bytes) :=
  match scanString .text [] bs with
  | .error fault => .error fault
  | .ok (read, rest) =>
    match Text.ofBytes? read with
    | some s => .ok (s, rest)
    | none => .error ⟨.badUnicode, rest.length + (read.length - Text.validLength read)⟩

/-- Reads the given letters, the remaining ones of a word. -/
def spelled : List UInt8 → Bytes → Except Fault Bytes
  | [], bs => .ok bs
  | _ :: _, [] => failBefore .endInValue []
  | letter :: letters, b :: rest =>
    if b = letter then spelled letters rest else failBefore .unknownWord rest

/-- The letters of null behind the first. -/
def nullLetters : List UInt8 := [0x75, 0x6C, 0x6C]

/-- The letters of true behind the first. -/
def trueLetters : List UInt8 := [0x72, 0x75, 0x65]

/-- The letters of false behind the first. -/
def falseLetters : List UInt8 := [0x61, 0x6C, 0x73, 0x65]

/-- Whether a byte separates tokens: space, line feed, tab or carriage return. -/
def isSpace (b : UInt8) : Bool :=
  b == 0x20 || b == 0x0A || b == 0x09 || b == 0x0D

/-- The bytes behind any leading separators. -/
def skipSpace (bs : Bytes) : Bytes :=
  bs.dropWhile isSpace

end ChainView.Json
