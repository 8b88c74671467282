import ChainView.Json.Skip

/-!
# Reading typed values

A decoder reads a value of a known type straight from the text, from left to right, and stops at
the first thing that is wrong with it.  This file has the decoders of the scalar types, of lists
and of optional values; `ChainView.Json.Record` has those of records.
-/

namespace ChainView.Json

/-- Reads a typed value in which lists and objects may be nested up to a number of levels. -/
abbrev Decoder (α : Type) := (depth : Nat) → Reader α

/-- The fault of a value that has another type than `expected`: the value is read far enough to
describe it, and if that fails, its own fault is given. -/
def mismatch {α : Type} (expected : String) (bs : Bytes) : Except Fault α :=
  let wrong (r : Except Fault (Found × Bytes)) : Except Fault α :=
    match r with
    | .error fault => .error fault
    | .ok (found, rest) => failBefore (.wrongType found expected) rest
  let wordFound (letters : List UInt8) (found : Found) (rest : Bytes) :
      Except Fault (Found × Bytes) :=
    match spelled letters rest with
    | .error fault => .error fault
    | .ok rest => .ok (found, rest)
  match bs with
  | [] => failAt .endInValue []
  | b :: rest =>
    if b = Ascii.byte 'n' then wrong (wordFound nullLetters .null rest)
    else if b = Ascii.byte 't' then wrong (wordFound trueLetters (.bool true) rest)
    else if b = Ascii.byte 'f' then wrong (wordFound falseLetters (.bool false) rest)
    else if b = Ascii.minus ∨ Ascii.isDigit b then
      match number bs with
      | .error fault => .error fault
      | .ok (.integer n, rest) => failBefore (.wrongType (.integer n.toInt) expected) rest
      | .ok (.float x, rest) => failBefore (.wrongType (.float x) expected) rest
      | .ok (_, rest) => failBefore .badNumber rest
    else if b = Ascii.quote then
      match stringBody rest with
      | .error fault => .error fault
      | .ok (s, rest) => failBefore (.wrongType (.string s) expected) rest
    else if b = Ascii.openBracket then failAt (.wrongType .sequence expected) bs
    else if b = Ascii.openBrace then failAt (.wrongType .map expected) bs
    else failAt .noValue bs

namespace Decoder

/-- Decodes with `d` and turns the result into another by `f`. -/
def map {α β : Type} (f : α → β) (d : Decoder α) : Decoder β := fun depth bs =>
  match d depth bs with
  | .error fault => .error fault
  | .ok (a, rest) => .ok (f a, rest)

/-- Decodes with `d` and checks the result by `f`, which may refuse it for a reason. -/
def check {α β : Type} (f : α → Except String β) (d : Decoder α) : Decoder β := fun depth bs =>
  match d depth bs with
  | .error fault => .error fault
  | .ok (a, rest) =>
    match f a with
    | .error reason => failBefore (.refused reason) rest
    | .ok b => .ok (b, rest)

/-- Any value. -/
def any : Decoder Value := value

/-- An integer that `narrow` accepts. -/
def integer {α : Type} (expected : String) (narrow : Int → Option α) : Decoder α := fun _ bs =>
  match skipSpace bs with
  | [] => failAt .endInValue []
  | b :: rest =>
    if b = Ascii.minus ∨ Ascii.isDigit b then
      match number (b :: rest) with
      | .error fault => .error fault
      | .ok (.integer n, rest) =>
        match narrow n.toInt with
        | some a => .ok (a, rest)
        | none => failBefore (.wrongValue (.integer n.toInt) expected) rest
      | .ok (.float x, rest) => failBefore (.wrongType (.float x) expected) rest
      | .ok (_, rest) => failBefore .badNumber rest
    else mismatch expected (b :: rest)

/-- The unsigned word of an integer in its range. -/
def word64? (n : Int) : Option UInt64 :=
  if 0 ≤ n ∧ n < 18446744073709551616 then some (UInt64.ofNat n.toNat) else none

/-- The unsigned 16-bit word of an integer in its range. -/
def word16? (n : Int) : Option UInt16 :=
  if 0 ≤ n ∧ n < 65536 then some (UInt16.ofNat n.toNat) else none

/-- The signed 32-bit word of an integer in its range. -/
def signed32? (n : Int) : Option Int32 :=
  if -2147483648 ≤ n ∧ n < 2147483648 then some (Int32.ofInt n) else none

/-- An unsigned 64-bit number. -/
def word64 : Decoder UInt64 := integer "u64" word64?

/-- A size, which has 64 bits too and only another name. -/
def size : Decoder UInt64 := integer "usize" word64?

/-- An unsigned 16-bit number. -/
def word16 : Decoder UInt16 := integer "u16" word16?

/-- A signed 32-bit number. -/
def int32 : Decoder Int32 := integer "i32" signed32?

/-- A truth value. -/
def bool : Decoder Bool := fun _ bs =>
  match skipSpace bs with
  | [] => failAt .endInValue []
  | b :: rest =>
    if b = Ascii.byte 't' then
      match spelled trueLetters rest with
      | .error fault => .error fault
      | .ok rest => .ok (true, rest)
    else if b = Ascii.byte 'f' then
      match spelled falseLetters rest with
      | .error fault => .error fault
      | .ok rest => .ok (false, rest)
    else mismatch "a boolean" (b :: rest)

/-- A text, which a message calls `expected` when it meets something else. -/
def textAs (expected : String) : Decoder String := fun _ bs =>
  match skipSpace bs with
  | [] => failAt .endInValue []
  | b :: rest => if b = Ascii.quote then stringBody rest else mismatch expected (b :: rest)

/-- A text. -/
def text : Decoder String := textAs "a string"

/-- A list of values. -/
def list {α : Type} (item : Decoder α) : Decoder (List α) := fun depth bs =>
  match skipSpace bs with
  | [] => failAt .endInValue []
  | b :: rest =>
    if b = Ascii.openBracket then
      match depth with
      | 0 => failAt .tooDeep (b :: rest)
      | depth + 1 => readItems (item depth) (rest.length + 1) true [] rest
    else mismatch "a sequence" (b :: rest)

/-- A value, or null for none. -/
def optional {α : Type} (item : Decoder α) : Decoder (Option α) := fun depth bs =>
  match skipSpace bs with
  | b :: rest =>
    if b = Ascii.byte 'n' then
      match spelled nullLetters rest with
      | .error fault => .error fault
      | .ok rest => .ok (none, rest)
    else item.map some depth (b :: rest)
  | [] => failAt .endInValue []

end Decoder

/-- The typed value that a JSON text writes. -/
def decode {α : Type} (d : Decoder α) (text : Bytes) : Except Fault α :=
  readAll (d nestingLimit) text

end ChainView.Json
