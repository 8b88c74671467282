import ChainView.Json.Value
import ChainView.Text.Ascii
import ChainView.Decimal.Notation

/-!
# Writing JSON texts

A value is written without any spaces, members in the order in which the object has them.  A string
escapes the quote, the backslash and the control characters, the common ones by a letter and the
others by number; everything else stands as it is, in UTF-8.
-/

namespace ChainView.Json

/-- A byte of a text as it stands in a string. -/
def escapeByte (b : UInt8) : Bytes :=
  if b = Ascii.quote then [Ascii.backslash, Ascii.quote]
  else if b = Ascii.backslash then [Ascii.backslash, Ascii.backslash]
  else if b = 0x08 then [Ascii.backslash, Ascii.byte 'b']
  else if b = 0x0C then [Ascii.backslash, Ascii.byte 'f']
  else if b = 0x0A then [Ascii.backslash, Ascii.byte 'n']
  else if b = 0x0D then [Ascii.backslash, Ascii.byte 'r']
  else if b = 0x09 then [Ascii.backslash, Ascii.byte 't']
  else if b < 0x20 then
    [Ascii.backslash, Ascii.byte 'u', Ascii.zero, Ascii.zero, Ascii.hexDigit (b.toNat / 16),
      Ascii.hexDigit (b.toNat % 16)]
  else [b]

/-- A text as a string. -/
def writeString (s : String) : Bytes :=
  Ascii.quote :: (Text.bytesOf s).flatMap escapeByte ++ [Ascii.quote]

/-- An integer in decimal. -/
def writeInt (n : Int) : Bytes :=
  if n < 0 then Ascii.minus :: Ascii.decimal n.natAbs else Ascii.decimal n.natAbs

/-- A finite number; what is not a number, or infinite, is written as null. -/
def writeFloat (x : Float) : Bytes :=
  if x.isFinite then (Decimal.floatText x).map Ascii.byte else [0x6E, 0x75, 0x6C, 0x6C]

/-- The word of a truth value. -/
def writeBool (b : Bool) : Bytes :=
  if b then [0x74, 0x72, 0x75, 0x65] else [0x66, 0x61, 0x6C, 0x73, 0x65]

/-- The word for nothing. -/
def writeNull : Bytes := [0x6E, 0x75, 0x6C, 0x6C]

mutual

/-- The text of a value. -/
def Value.write : Value → Bytes
  | .null => writeNull
  | .bool b => writeBool b
  | .integer n => writeInt n.toInt
  | .float x => writeFloat x
  | .string s => writeString s
  | .array items => Ascii.openBracket :: writeItems items ++ [Ascii.closeBracket]
  | .object members => Ascii.openBrace :: writeMembers members ++ [Ascii.closeBrace]

/-- The items of a list, separated by commas. -/
def writeItems : List Value → Bytes
  | [] => []
  | [v] => v.write
  | v :: rest => v.write ++ Ascii.comma :: writeItems rest

/-- The members of an object, separated by commas. -/
def writeMembers : List (String × Value) → Bytes
  | [] => []
  | [(k, v)] => writeString k ++ Ascii.colon :: v.write
  | (k, v) :: rest => writeString k ++ Ascii.colon :: v.write ++ Ascii.comma :: writeMembers rest

end

/-- The text of a value as a text. -/
def Value.text (v : Value) : String :=
  Text.ofBytes v.write

end ChainView.Json
