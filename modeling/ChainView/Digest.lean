import ChainView.Text.Quoted
import ChainView.Text.Ascii

/-!
# Digests

A digest is 32 bytes: the id of a block, a commitment, or a state root.  Its text is 64 lowercase
hexadecimal digits.  Reading accepts digits of either case and one leading `0x`; a text that is
refused is refused for its odd number of bytes, for its first byte that is no digit, or for its
length, in this order.
-/

namespace ChainView

/-- Thirty-two bytes. -/
structure Digest where
  /-- The bytes, first byte first. -/
  bytes : Bytes
  /-- There are thirty-two of them. -/
  length_bytes : bytes.length = 32
  deriving DecidableEq

namespace Digest

@[ext] theorem ext {a b : Digest} (h : a.bytes = b.bytes) : a = b := by
  cases a; cases b; cases h; rfl

/-- The digest of zero bytes, which stands for no block. -/
def zero : Digest where
  bytes := List.replicate 32 0
  length_bytes := by decide

instance : Inhabited Digest := ⟨zero⟩

/-- Whether a digest is the zero digest. -/
def isZero (d : Digest) : Bool :=
  d = zero

/-- Digests are ordered by their first differing byte. -/
instance : Ord Digest where
  compare a b := compare a.bytes b.bytes

/-- The two hexadecimal digits of a byte. -/
def hexPair (b : UInt8) : Bytes :=
  [Ascii.hexDigit (b.toNat / 16), Ascii.hexDigit (b.toNat % 16)]

/-- The hexadecimal digits of a digest. -/
def hexBytes (d : Digest) : Bytes :=
  d.bytes.flatMap hexPair

/-- The text of a digest. -/
def toHex (d : Digest) : String :=
  Text.ofAscii d.hexBytes

/-- The text of a digest with the mark `0x` in front. -/
def toMarkedHex (d : Digest) : String :=
  "0x" ++ d.toHex

/-- Why a text is no digest. -/
inductive Refusal where
  /-- It has an odd number of bytes. -/
  | oddLength
  /-- A byte of it is no hexadecimal digit. -/
  | badDigit (byte : UInt8) (position : Nat)
  /-- It writes another number of bytes than thirty-two. -/
  | wrongLength (found : Nat)
  deriving DecidableEq

/-- The wording of a refusal.  The bad byte is shown as the character of that code point. -/
def Refusal.message : Refusal → String
  | .oddLength => "invalid hex: Odd number of digits"
  | .badDigit byte position =>
    "invalid hex: Invalid character " ++ Text.quotedChar (Char.ofNat byte.toNat) ++ " at position "
      ++ toString position
  | .wrongLength found => "expected 32 bytes, got " ++ toString found

/-- The bytes behind one leading `0x`. -/
def stripMark : Bytes → Bytes
  | 0x30 :: 0x78 :: rest => rest
  | bs => bs

/-- The first byte that is no hexadecimal digit, with its position counted from `position`. -/
def firstBadDigit (position : Nat) : Bytes → Option (UInt8 × Nat)
  | [] => none
  | b :: rest =>
    if (Ascii.hexDigit? b).isSome then firstBadDigit (position + 1) rest else some (b, position)

/-- The bytes that pairs of hexadecimal digits write. -/
def joinPairs : Bytes → Bytes
  | a :: b :: rest =>
    ((Ascii.hexDigit? a).getD 0 * 16 + (Ascii.hexDigit? b).getD 0).toUInt8 :: joinPairs rest
  | _ => []

/-- The digest that hexadecimal digits write. -/
def ofDigits (ds : Bytes) : Except Refusal Digest :=
  if ds.length % 2 = 1 then .error .oddLength
  else
    match firstBadDigit 0 ds with
    | some (b, position) => .error (.badDigit b position)
    | none =>
      let bs := joinPairs ds
      if h : bs.length = 32 then .ok ⟨bs, h⟩ else .error (.wrongLength bs.length)

/-- The digest that a text writes. -/
def ofHex (s : String) : Except Refusal Digest :=
  ofDigits (stripMark (Text.bytesOf s))

/-- The digest shown in messages. -/
def describe (d : Digest) : String :=
  "Buf32(" ++ d.toHex ++ ")"

@[simp] theorem firstBadDigit_hexBytes (bs : Bytes) (position : Nat) :
    firstBadDigit position (bs.flatMap hexPair) = none := by
  induction bs generalizing position with
  | nil => rfl
  | cons b rest ih =>
    have h₁ := Ascii.hexDigit?_hexDigit (n := b.toNat / 16) (by have := b.toNat_lt; omega)
    have h₂ := Ascii.hexDigit?_hexDigit (n := b.toNat % 16) (by omega)
    simp [hexPair, firstBadDigit, h₁, h₂, ih]

@[simp] theorem joinPairs_hexBytes (bs : Bytes) : joinPairs (bs.flatMap hexPair) = bs := by
  induction bs with
  | nil => rfl
  | cons b rest ih =>
    have h₁ := Ascii.hexDigit?_hexDigit (n := b.toNat / 16) (by have := b.toNat_lt; omega)
    have h₂ := Ascii.hexDigit?_hexDigit (n := b.toNat % 16) (by omega)
    have hb : b.toNat / 16 * 16 + b.toNat % 16 = b.toNat := by omega
    simp [hexPair, joinPairs, h₁, h₂, ih, hb]

theorem hexBytes_digits (d : Digest) : ∀ b ∈ d.hexBytes, (Ascii.hexDigit? b).isSome := by
  intro b hb
  obtain ⟨c, -, hc⟩ := List.mem_flatMap.mp hb
  have hlt := c.toNat_lt
  simp only [hexPair, List.mem_cons, List.not_mem_nil, or_false] at hc
  rcases hc with rfl | rfl <;> rw [Ascii.hexDigit?_hexDigit (by omega)] <;> rfl

theorem length_hexBytes (d : Digest) : d.hexBytes.length = 64 := by
  have : ∀ bs : Bytes, (bs.flatMap hexPair).length = 2 * bs.length := by
    intro bs
    induction bs with
    | nil => rfl
    | cons b rest ih => simp [hexPair, ih]; omega
  simp [hexBytes, this, d.length_bytes]

/-- Reading the hexadecimal digits of a digest gives the digest back. -/
theorem ofDigits_hexBytes (d : Digest) : ofDigits d.hexBytes = .ok d := by
  have h := d.length_bytes
  simp [ofDigits, length_hexBytes]
  simp [hexBytes, h]

theorem hexBytes_ascii (d : Digest) : ∀ b ∈ d.hexBytes, b < 0x80 := by
  intro b hb
  obtain ⟨c, -, hc⟩ := List.mem_flatMap.mp hb
  have hlt := c.toNat_lt
  simp only [hexPair, List.mem_cons, List.not_mem_nil, or_false] at hc
  rcases hc with rfl | rfl <;> exact Ascii.hexDigit_lt (by omega)

/-- The bytes of the text of a digest are its hexadecimal digits. -/
theorem bytesOf_toHex (d : Digest) : Text.bytesOf d.toHex = d.hexBytes :=
  Text.bytesOf_ofAscii d.hexBytes_ascii

/-- Digits have no mark: their second byte is no `x`. -/
theorem stripMark_of_digits {bs : Bytes} (h : ∀ b ∈ bs, (Ascii.hexDigit? b).isSome) :
    stripMark bs = bs := by
  unfold stripMark
  split
  · have := h 0x78 (by simp)
    exact absurd this (by decide)
  · rfl

/-- The digits of a digest have no mark. -/
theorem stripMark_hexBytes (d : Digest) : stripMark d.hexBytes = d.hexBytes :=
  stripMark_of_digits d.hexBytes_digits

/-- Reading the text of a digest gives the digest back. -/
theorem ofHex_toHex (d : Digest) : ofHex d.toHex = .ok d := by
  rw [ofHex, bytesOf_toHex, stripMark_hexBytes, ofDigits_hexBytes]

/-- The mark in front of the text of a digest is ignored. -/
theorem ofHex_toMarkedHex (d : Digest) : ofHex d.toMarkedHex = .ok d := by
  have h : Text.bytesOf "0x" = [0x30, 0x78] := by decide
  rw [ofHex, toMarkedHex, Text.bytesOf_append, h, bytesOf_toHex]
  exact ofDigits_hexBytes d

end Digest

end ChainView
