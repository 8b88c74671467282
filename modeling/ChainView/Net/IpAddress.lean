import ChainView.Text.Numeral
import ChainView.Json.Record

/-!
# Internet addresses

Addresses of both families and their texts.  A version 4 address is four decimal numbers without
leading zeros, separated by points.  A version 6 address is eight hexadecimal groups separated by
colons; one run of zero groups may be left out between two colons, and the last two groups may be
given as a version 4 address.  Writing leaves out the longest run of at least two zero groups, the
first of several, and shows a version 4 address that is mapped into version 6 as such.
-/

namespace ChainView

/-- An internet address. -/
inductive IpAddress where
  /-- A version 4 address. -/
  | v4 (a b c d : UInt8)
  /-- A version 6 address. -/
  | v6 (groups : Vector UInt16 8)
  deriving DecidableEq

namespace IpAddress

/-! ## Writing -/

/-- The text of a version 4 address. -/
def v4Chars (a b c d : UInt8) : List Char :=
  Nat.toDigits 10 a.toNat ++ '.' :: Nat.toDigits 10 b.toNat ++ '.' :: Nat.toDigits 10 c.toNat
    ++ '.' :: Nat.toDigits 10 d.toNat

/-- The groups in hexadecimal, separated by colons. -/
def groupChars : List UInt16 → List Char
  | [] => []
  | [g] => Nat.toDigits 16 g.toNat
  | g :: rest => Nat.toDigits 16 g.toNat ++ ':' :: groupChars rest

/-- The number of zero groups in front. -/
def zeroCount (gs : List UInt16) : Nat :=
  (gs.takeWhile (· = 0)).length

/-- The start and the length of the longest run of zero groups, the first of several. -/
def longestRun (gs : List UInt16) : Nat × Nat :=
  (List.range gs.length).foldl
    (fun best i => if best.2 < zeroCount (gs.drop i) then (i, zeroCount (gs.drop i)) else best)
    (0, 0)

/-- The high and the low byte of a group. -/
def groupBytes (g : UInt16) : UInt8 × UInt8 :=
  ((g.toNat / 256).toUInt8, (g.toNat % 256).toUInt8)

/-- The text of a version 6 address. -/
def v6Chars (gs : List UInt16) : List Char :=
  match gs with
  | [0, 0, 0, 0, 0, 0xFFFF, x, y] =>
    let (a, b) := groupBytes x
    let (c, d) := groupBytes y
    [':', ':', 'f', 'f', 'f', 'f', ':'] ++ v4Chars a b c d
  | _ =>
    let (start, count) := longestRun gs
    if 1 < count then
      groupChars (gs.take start) ++ [':', ':'] ++ groupChars (gs.drop (start + count))
    else groupChars gs

/-- The text of an address. -/
def text : IpAddress → String
  | .v4 a b c d => String.ofList (v4Chars a b c d)
  | .v6 groups => String.ofList (v6Chars groups.toList)

/-- The text of an address with a port, a version 6 address between brackets. -/
def withPort (address : IpAddress) (port : UInt16) : String :=
  match address with
  | .v4 _ _ _ _ => address.text ++ ":" ++ toString port.toNat
  | .v6 _ => "[" ++ address.text ++ "]:" ++ toString port.toNat

/-! ## Reading -/

/-- The value of a digit in a base up to sixteen. -/
def digit? (base : Nat) (c : Char) : Option Nat :=
  let value :=
    if '0' ≤ c ∧ c ≤ '9' then some (c.toNat - '0'.toNat)
    else if 'a' ≤ c ∧ c ≤ 'f' then some (c.toNat - 'a'.toNat + 10)
    else if 'A' ≤ c ∧ c ≤ 'F' then some (c.toNat - 'A'.toNat + 10)
    else none
  value.filter (· < base)

/-- The number that digits write. -/
def digitsValue (base : Nat) (ds : List Char) : Nat :=
  ds.foldl (fun n c => n * base + (digit? base c).getD 0) 0

/-- Reads a number of at most `most` digits. -/
def readNumber (base most : Nat) (cs : List Char) : Option (List Char × Nat × List Char) :=
  let ds := cs.takeWhile fun c => (digit? base c).isSome
  if ds.isEmpty ∨ most < ds.length then none
  else some (ds, digitsValue base ds, cs.drop ds.length)

/-- Reads a part of a version 4 address, which has no leading zeros. -/
def readByte (cs : List Char) : Option (UInt8 × List Char) :=
  match readNumber 10 3 cs with
  | none => none
  | some (ds, n, rest) =>
    if (ds.head? = some '0' ∧ 1 < ds.length) ∨ 255 < n then none else some (n.toUInt8, rest)

/-- Reads a group of a version 6 address. -/
def readGroup (cs : List Char) : Option (UInt16 × List Char) :=
  match readNumber 16 4 cs with
  | none => none
  | some (_, n, rest) => some (n.toUInt16, rest)

/-- Reads something behind a separator. -/
def behind {α : Type} (separator : Char) (read : List Char → Option (α × List Char)) :
    List Char → Option (α × List Char)
  | c :: rest => if c = separator then read rest else none
  | [] => none

/-- Reads a version 4 address. -/
def readV4 (cs : List Char) : Option ((UInt8 × UInt8 × UInt8 × UInt8) × List Char) := do
  let (a, cs) ← readByte cs
  let (b, cs) ← behind '.' readByte cs
  let (c, cs) ← behind '.' readByte cs
  let (d, cs) ← behind '.' readByte cs
  some ((a, b, c, d), cs)

/-- A group of two bytes. -/
def joinBytes (high low : UInt8) : UInt16 :=
  (high.toNat * 256 + low.toNat).toUInt16

/-- Reads at most `most` groups, as far as there are any: the groups, whether the last two were
given as a version 4 address, and the rest. -/
def readGroups : (most : Nat) → (first : Bool) → List Char → List UInt16 × Bool × List Char
  | 0, _, cs => ([], false, cs)
  | most + 1, first, cs =>
    let v4 := if 0 < most then (if first then readV4 cs else behind ':' readV4 cs) else none
    match v4 with
    | some ((a, b, c, d), rest) => ([joinBytes a b, joinBytes c d], true, rest)
    | none =>
      match if first then readGroup cs else behind ':' readGroup cs with
      | none => ([], false, cs)
      | some (g, rest) =>
        let (gs, ended, rest) := readGroups most false rest
        (g :: gs, ended, rest)

/-- The number of groups in a version 6 address. -/
def groupCount : Nat := 8

/-- Reads a version 6 address as the list of its groups. -/
def readV6 (cs : List Char) : Option (List UInt16 × List Char) :=
  let (head, ended, rest) := readGroups groupCount true cs
  if head.length = groupCount then some (head, rest)
  else if ended then none
  else
    match rest with
    | ':' :: ':' :: rest =>
      let (tail, _, rest) := readGroups (groupCount - (head.length + 1)) true rest
      some (head ++ List.replicate (groupCount - head.length - tail.length) 0 ++ tail, rest)
    | _ => none

/-- The version 6 address of a list of groups. -/
def ofGroups? (gs : List UInt16) : Option IpAddress :=
  if h : gs.length = 8 then some (.v6 ⟨gs.toArray, by simp [h]⟩) else none

/-- The address that a text writes. -/
def ofText? (s : String) : Option IpAddress :=
  match readV4 s.toList with
  | some ((a, b, c, d), rest) => if rest.isEmpty then some (.v4 a b c d) else none
  | none =>
    match readV6 s.toList with
    | some (gs, rest) => if rest.isEmpty then ofGroups? gs else none
    | none => none

/-! ## The wire form -/

/-- An address as a value. -/
def toJson (address : IpAddress) : Json.Value := .string address.text

/-- Reads an address from its text. -/
def decoder : Json.Decoder IpAddress :=
  (Json.Decoder.textAs "IP address").check fun s =>
    match ofText? s with
    | some address => .ok address
    | none => .error "invalid IP address syntax"

end IpAddress

end ChainView
