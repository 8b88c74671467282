import ChainView.Json.Chars

/-!
# Reading JSON texts

`parse` reads a whole text into a value.  Lists and objects may be nested up to a limit, and the
reader recurses on what remains of it; the loops over items and members take the reader of the
nested values as an argument and run on a count of rounds that the length of the text bounds.  Of
several members with one key the last is kept, and members are kept in the order of their keys.
-/

namespace ChainView.Json

/-- How deeply lists and objects may be nested. -/
def nestingLimit : Nat := 127

/-- Finds the next item of a list behind its opening bracket or behind an item: whether there is
one, and the bytes from it on, or from the closing bracket on. -/
def nextItem (first : Bool) (bs : Bytes) : Except Fault (Bool × Bytes) :=
  match skipSpace bs with
  | [] => failAt .endInList []
  | b :: rest =>
    if b = Ascii.closeBracket then .ok (false, b :: rest)
    else if first then .ok (true, b :: rest)
    else if b = Ascii.comma then
      match skipSpace rest with
      | [] => failAt .endInValue []
      | c :: rest =>
        if c = Ascii.closeBracket then failAt .trailingComma (c :: rest) else .ok (true, c :: rest)
    else failAt .noListEnd (b :: rest)

/-- Finds the next member of an object behind its opening brace or behind a member, and reads its
key; without one, the bytes returned start at the closing brace. -/
def nextKey (first : Bool) (bs : Bytes) : Except Fault (Option String × Bytes) :=
  let key (bs : Bytes) : Except Fault (Option String × Bytes) :=
    match bs with
    | [] => failAt .endInValue []
    | c :: rest =>
      if c = Ascii.quote then
        match stringBody rest with
        | .error fault => .error fault
        | .ok (s, rest) => .ok (some s, rest)
      else if c = Ascii.closeBrace then failAt .trailingComma bs
      else failAt .keyNotString bs
  match skipSpace bs with
  | [] => failAt .endInObject []
  | b :: rest =>
    if b = Ascii.closeBrace then .ok (none, b :: rest)
    else if first then key (b :: rest)
    else if b = Ascii.comma then key (skipSpace rest)
    else failAt .noObjectEnd (b :: rest)

/-- Passes the colon behind a key. -/
def passColon (bs : Bytes) : Except Fault Bytes :=
  match skipSpace bs with
  | [] => failAt .endInObject []
  | b :: rest => if b = Ascii.colon then .ok rest else failAt .noColon (b :: rest)

/-- Reads the items of a list up to its closing bracket; `read` are those so far, last first. -/
def readItems {α : Type} (item : Reader α) :
    (rounds : Nat) → (first : Bool) → (read : List α) → Reader (List α)
  | 0, _, _, _ => failAt .endInList []
  | rounds + 1, first, read, bs =>
    match nextItem first bs with
    | .error fault => .error fault
    | .ok (false, bs) => .ok (read.reverse, bs.drop 1)
    | .ok (true, bs) =>
      match item bs with
      | .error fault => .error fault
      | .ok (a, bs) => readItems item rounds false (a :: read) bs

/-- Reads the members of an object up to its closing brace into the members `read` so far. -/
def readMembers (item : Reader Value) :
    (rounds : Nat) → (first : Bool) → (read : List (String × Value)) →
      Reader (List (String × Value))
  | 0, _, _, _ => failAt .endInObject []
  | rounds + 1, first, read, bs =>
    match nextKey first bs with
    | .error fault => .error fault
    | .ok (none, bs) => .ok (read, bs.drop 1)
    | .ok (some key, bs) =>
      match passColon bs with
      | .error fault => .error fault
      | .ok bs =>
        match item bs with
        | .error fault => .error fault
        | .ok (v, bs) => readMembers item rounds false (insertMember key v read) bs

/-- Reads a word behind its first letter and stands for the value it names. -/
def wordValue (letters : List UInt8) (v : Value) : Reader Value := fun bs =>
  match spelled letters bs with
  | .error fault => .error fault
  | .ok rest => .ok (v, rest)

/-- Reads a value; `nested` reads the values in it, and is missing at the nesting limit. -/
def readValue (nested : Option (Reader Value)) : Reader Value := fun bs =>
  match skipSpace bs with
  | [] => failAt .endInValue []
  | b :: rest =>
    if b = Ascii.byte 'n' then wordValue nullLetters .null rest
    else if b = Ascii.byte 't' then wordValue trueLetters (.bool true) rest
    else if b = Ascii.byte 'f' then wordValue falseLetters (.bool false) rest
    else if b = Ascii.quote then
      match stringBody rest with
      | .error fault => .error fault
      | .ok (s, rest) => .ok (.string s, rest)
    else if b = Ascii.openBracket then
      match nested with
      | none => failAt .tooDeep (b :: rest)
      | some item =>
        match readItems item (rest.length + 1) true [] rest with
        | .error fault => .error fault
        | .ok (items, rest) => .ok (.array items, rest)
    else if b = Ascii.openBrace then
      match nested with
      | none => failAt .tooDeep (b :: rest)
      | some item =>
        match readMembers item (rest.length + 1) true [] rest with
        | .error fault => .error fault
        | .ok (members, rest) => .ok (.object members, rest)
    else if b = Ascii.minus ∨ Ascii.isDigit b then number (b :: rest)
    else failAt .noValue (b :: rest)

/-- Reads a value in which lists and objects are nested up to `depth` levels. -/
def value : (depth : Nat) → Reader Value
  | 0 => readValue none
  | depth + 1 => readValue (some (value depth))

/-- Reads a whole text, behind which only separators may follow. -/
def readAll {α : Type} (reader : Reader α) (text : Bytes) : Except Fault α :=
  match reader text with
  | .error fault => .error fault
  | .ok (a, rest) =>
    match skipSpace rest with
    | [] => .ok a
    | rest => failAt .trailingCharacters rest

/-- The value that a JSON text writes. -/
def parse (text : Bytes) : Except Fault Value :=
  readAll (value nestingLimit) text

end ChainView.Json
