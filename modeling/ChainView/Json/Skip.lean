import ChainView.Json.Reader

/-!
# Passing over values

A member that a record does not know is passed over without being read.  That is more liberal than
reading: nesting is unlimited, numbers may be of any size, and strings need not be valid text.
-/

namespace ChainView.Json

/-- What encloses the place where values are passed over. -/
inductive Enclosure where
  /-- A list. -/
  | list
  /-- An object. -/
  | object
  deriving DecidableEq

namespace Enclosure

/-- The byte that ends the enclosure. -/
def closing : Enclosure → UInt8
  | .list => Ascii.closeBracket
  | .object => Ascii.closeBrace

/-- The cause of a fault when the text ends within the enclosure. -/
def endCause : Enclosure → Cause
  | .list => .endInList
  | .object => .endInObject

/-- The cause of a fault when neither a comma nor the end follows. -/
def noEndCause : Enclosure → Cause
  | .list => .noListEnd
  | .object => .noObjectEnd

end Enclosure

/-- Where the scanner of a skipped string stands. -/
inductive SkipPlace where
  /-- Between characters. -/
  | text
  /-- Behind a backslash. -/
  | escape
  /-- Among the four digits of a numeric escape. -/
  | digits (seen : List UInt8)

/-- Passes over a string, from a place within it to its closing quote. -/
def skipString : SkipPlace → Bytes → Except Fault Bytes
  | _, [] => failBefore .endInString []
  | .text, b :: rest =>
    if b = Ascii.quote then .ok rest
    else if b = Ascii.backslash then skipString .escape rest
    else if b < 0x20 then failBefore .controlCharacter (b :: rest)
    else skipString .text rest
  | .escape, b :: rest =>
    if b = Ascii.byte 'u' then skipString (.digits []) rest
    else if (escaped? b).isSome then skipString .text rest
    else failBefore .badEscape rest
  | .digits seen, b :: rest =>
    if seen.length = 3 then
      if (hexNumber? (seen ++ [b])).isSome then skipString .text rest
      else failBefore .badEscape rest
    else skipString (.digits (seen ++ [b])) rest

/-- Passes over the digits of an exponent, its letter passed. -/
def skipExponent (bs : Bytes) : Except Fault Bytes :=
  let unsigned :=
    match bs with
    | b :: rest => if b = Ascii.plus ∨ b = Ascii.minus then rest else bs
    | [] => []
  match unsigned with
  | [] => failBefore .badNumber []
  | b :: rest =>
    if Ascii.isDigit b then .ok (passDigits 0 rest).2 else failBefore .badNumber rest

/-- Passes over an exponent, if one follows. -/
def skipAfterDigits (bs : Bytes) : Except Fault Bytes :=
  match bs with
  | b :: rest =>
    if b = Ascii.byte 'e' ∨ b = Ascii.byte 'E' then skipExponent rest else .ok bs
  | [] => .ok []

/-- Passes over a fraction and an exponent, where they follow. -/
def skipAfterInteger (bs : Bytes) : Except Fault Bytes :=
  match bs with
  | b :: rest =>
    if b = Ascii.point then
      let (passed, rest) := passDigits 0 rest
      if passed = 0 then failAt .badNumber rest else skipAfterDigits rest
    else skipAfterDigits bs
  | [] => .ok []

/-- Passes over a number behind its sign. -/
def skipNumber (bs : Bytes) : Except Fault Bytes :=
  match bs with
  | [] => failBefore .badNumber []
  | b :: rest =>
    if b = Ascii.zero then
      match rest with
      | c :: _ => if Ascii.isDigit c then failAt .badNumber rest else skipAfterInteger rest
      | [] => .ok []
    else if Ascii.isDigit b then skipAfterInteger (passDigits 0 rest).2
    else failBefore .badNumber rest

/-- Goes on behind a value, or behind an opening bracket or brace when `behindValue` is false: to
the next value within the enclosures, or out of all of them.  The enclosures still open and the
bytes from there on are returned. -/
def leave (behindValue : Bool) :
    List Enclosure → Bytes → Except Fault (List Enclosure × Bytes)
  | [], bs => .ok ([], bs)
  | e :: outer, bs =>
    match skipSpace bs with
    | [] => failAt e.endCause []
    | b :: rest =>
      if b = Ascii.comma ∧ behindValue then .ok (e :: outer, rest)
      else if b = e.closing then leave true outer rest
      else if behindValue then failAt e.noEndCause (b :: rest)
      else .ok (e :: outer, b :: rest)

/-- Passes over a key and its colon. -/
def skipKey (bs : Bytes) : Except Fault Bytes :=
  match skipSpace bs with
  | [] => failAt .endInObject []
  | b :: rest =>
    if b = Ascii.quote then
      match skipString .text rest with
      | .error fault => .error fault
      | .ok rest => passColon rest
    else failAt .keyNotString (b :: rest)

/-- Passes over a value, or over the opening of one: whether it is passed entirely, the enclosures
then open, and the bytes from there on. -/
def skipOpening (enclosures : List Enclosure) (bs : Bytes) :
    Except Fault (Bool × List Enclosure × Bytes) :=
  let passed (r : Except Fault Bytes) : Except Fault (Bool × List Enclosure × Bytes) :=
    match r with
    | .error fault => .error fault
    | .ok rest => .ok (true, enclosures, rest)
  match skipSpace bs with
  | [] => failAt .endInValue []
  | b :: rest =>
    if b = Ascii.byte 'n' then passed (spelled nullLetters rest)
    else if b = Ascii.byte 't' then passed (spelled trueLetters rest)
    else if b = Ascii.byte 'f' then passed (spelled falseLetters rest)
    else if b = Ascii.minus then passed (skipNumber rest)
    else if Ascii.isDigit b then passed (skipNumber (b :: rest))
    else if b = Ascii.quote then passed (skipString .text rest)
    else if b = Ascii.openBracket then .ok (false, .list :: enclosures, rest)
    else if b = Ascii.openBrace then .ok (false, .object :: enclosures, rest)
    else failAt .noValue (b :: rest)

/-- Passes over values until all enclosures are left. -/
def skipWithin : (rounds : Nat) → List Enclosure → Bytes → Except Fault Bytes
  | 0, _, _ => failAt .endInValue []
  | rounds + 1, enclosures, bs =>
    match skipOpening enclosures bs with
    | .error fault => .error fault
    | .ok (behindValue, enclosures, bs) =>
      match leave behindValue enclosures bs with
      | .error fault => .error fault
      | .ok ([], bs) => .ok bs
      | .ok (.list :: outer, bs) => skipWithin rounds (.list :: outer) bs
      | .ok (.object :: outer, bs) =>
        match skipKey bs with
        | .error fault => .error fault
        | .ok bs => skipWithin rounds (.object :: outer) bs

/-- Passes over a value. -/
def skipValue (bs : Bytes) : Except Fault Bytes :=
  skipWithin (bs.length + 1) [] bs

end ChainView.Json
