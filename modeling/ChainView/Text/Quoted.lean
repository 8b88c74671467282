import ChainView.Text.Printable

/-!
# Quoted texts

Messages show a foreign text between double quotes, with its quotes, backslashes and invisible
characters escaped, and a single character between single quotes.
-/

namespace ChainView.Text

/-- The digits of `n` in lowercase hexadecimal, without padding. -/
def hexText (n : Nat) : List Char :=
  Nat.toDigits 16 n

/-- A character spelled by its code point: `\u`, then the hexadecimal digits between braces. -/
def codePoint (c : Char) : List Char :=
  ['\\', 'u', '\x7b'] ++ hexText c.toNat ++ ['\x7d']

/-- A character with its escape: the five with a letter of their own, the backslash and the
enclosing quote `mark` behind a backslash, the invisible ones by code point. -/
def escapeChar (mark c : Char) : List Char :=
  if c = '\x00' then ['\\', '0']
  else if c = '\t' then ['\\', 't']
  else if c = '\n' then ['\\', 'n']
  else if c = '\r' then ['\\', 'r']
  else if c = '\\' then ['\\', '\\']
  else if c = mark then ['\\', mark]
  else if isConcealed c then codePoint c
  else [c]

/-- A text between double quotes. -/
def quoted (s : String) : String :=
  String.ofList (['\x22'] ++ s.toList.flatMap (escapeChar '\x22') ++ ['\x22'])

/-- A character between single quotes. -/
def quotedChar (c : Char) : String :=
  String.ofList (['\x27'] ++ escapeChar '\x27' c ++ ['\x27'])

end ChainView.Text
