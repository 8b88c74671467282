import ChainView.Text.Quoted
import ChainView.Text.Ascii
import ChainView.Decimal.Notation

/-!
# What can be wrong with a JSON text

A fault is a cause together with a place.  The causes come in two groups: those that spoil the text
as JSON, and those of a well-formed value that does not fit the type it is read into.  The place is
kept as the number of bytes that follow it, which is what a reader knows without counting, and
becomes a line and a column only when the whole text is at hand.
-/

namespace ChainView.Json

/-- What was found where a value of another type was expected. -/
inductive Found where
  /-- The null value. -/
  | null
  /-- A truth value. -/
  | bool (b : Bool)
  /-- An integer. -/
  | integer (n : Int)
  /-- A number that is not an integer. -/
  | float (x : Float)
  /-- A text. -/
  | string (s : String)
  /-- A list. -/
  | sequence
  /-- An object. -/
  | map

/-- Why a text cannot be read. -/
inductive Cause where
  /-- The text ends where a value must stand or within one. -/
  | endInValue
  /-- The text ends within a string. -/
  | endInString
  /-- The text ends within a list. -/
  | endInList
  /-- The text ends within an object. -/
  | endInObject
  /-- A word is none of the three that JSON has. -/
  | unknownWord
  /-- No value starts here. -/
  | noValue
  /-- A key is not followed by a colon. -/
  | noColon
  /-- An item is followed neither by a comma nor by the end of the list. -/
  | noListEnd
  /-- A member is followed neither by a comma nor by the end of the object. -/
  | noObjectEnd
  /-- A number breaks off or has a superfluous zero. -/
  | badNumber
  /-- A number is too large for double precision. -/
  | numberTooLarge
  /-- A string holds a raw control character. -/
  | controlCharacter
  /-- A backslash is followed by no known escape. -/
  | badEscape
  /-- Half of a surrogate pair stands alone. -/
  | loneSurrogate
  /-- The first half of a surrogate pair is not followed by another escape. -/
  | noSecondSurrogate
  /-- The bytes of a string are not UTF-8. -/
  | badUnicode
  /-- A comma is followed by the end of the list or object. -/
  | trailingComma
  /-- A key is not a string. -/
  | keyNotString
  /-- Lists and objects are nested too deeply. -/
  | tooDeep
  /-- Something follows the value. -/
  | trailingCharacters
  /-- A record lacks a member. -/
  | missingField (name : String)
  /-- A record has a member twice. -/
  | duplicateField (name : String)
  /-- A record written as a list has too few items. -/
  | tooShort (found : Nat) (record : String) (expected : Nat)
  /-- A value has the wrong type. -/
  | wrongType (found : Found) (expected : String)
  /-- A value has the right type and is out of range. -/
  | wrongValue (found : Found) (expected : String)
  /-- The type refuses the value for a reason of its own. -/
  | refused (reason : String)

/-- A cause, and the number of bytes that follow the place where it arose. -/
structure Fault where
  /-- What is wrong. -/
  cause : Cause
  /-- How many bytes of the text follow the place. -/
  following : Nat

/-- The description of what was found. -/
def Found.describe : Found → String
  | .null => "null"
  | .bool b => "boolean `" ++ (if b then "true" else "false") ++ "`"
  | .integer n => "integer `" ++ toString n ++ "`"
  | .float x => "floating point `" ++ String.ofList (Decimal.floatText x) ++ "`"
  | .string s => "string " ++ Text.quoted s
  | .sequence => "sequence"
  | .map => "map"

/-- The wording of a cause. -/
def Cause.message : Cause → String
  | .endInValue => "EOF while parsing a value"
  | .endInString => "EOF while parsing a string"
  | .endInList => "EOF while parsing a list"
  | .endInObject => "EOF while parsing an object"
  | .unknownWord => "expected ident"
  | .noValue => "expected value"
  | .noColon => "expected `:`"
  | .noListEnd => "expected `,` or `]`"
  | .noObjectEnd => "expected `,` or `\x7d`"
  | .badNumber => "invalid number"
  | .numberTooLarge => "number out of range"
  | .controlCharacter => "control character (\\u0000-\\u001F) found while parsing a string"
  | .badEscape => "invalid escape"
  | .loneSurrogate => "lone leading surrogate in hex escape"
  | .noSecondSurrogate => "unexpected end of hex escape"
  | .badUnicode => "invalid unicode code point"
  | .trailingComma => "trailing comma"
  | .keyNotString => "key must be a string"
  | .tooDeep => "recursion limit exceeded"
  | .trailingCharacters => "trailing characters"
  | .missingField name => "missing field `" ++ name ++ "`"
  | .duplicateField name => "duplicate field `" ++ name ++ "`"
  | .tooShort found record expected =>
    "invalid length " ++ toString found ++ ", expected struct " ++ record ++ " with "
      ++ toString expected ++ " elements"
  | .wrongType found expected => "invalid type: " ++ found.describe ++ ", expected " ++ expected
  | .wrongValue found expected => "invalid value: " ++ found.describe ++ ", expected " ++ expected
  | .refused reason => reason

/-- The line and the column of the place `offset` bytes into a text, lines counted from one and
columns by the bytes since the last line break. -/
def position (text : Bytes) (offset : Nat) : Nat × Nat :=
  let before := text.take offset
  (1 + before.count 0x0A, (before.reverse.takeWhile (· ≠ 0x0A)).length)

/-- The wording of a fault in a text, with its line and column. -/
def Fault.describe (fault : Fault) (text : Bytes) : String :=
  let (line, column) := position text (text.length - fault.following)
  fault.cause.message ++ " at line " ++ toString line ++ " column " ++ toString column

end ChainView.Json
