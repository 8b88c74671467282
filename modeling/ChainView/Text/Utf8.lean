/-!
# Texts and their bytes

Everything that crosses the wire is a list of bytes, and a text crosses it in UTF-8.  This file
fixes the two directions: `bytesOf` writes a text down, and `ofBytes?` reads bytes back, refusing
any that are not the UTF-8 form of a text.  The main statement is that reading undoes writing.
-/

namespace ChainView

/-- A stretch of raw bytes, first byte first. -/
abbrev Bytes := List UInt8

namespace Text

/-- The UTF-8 bytes of a text. -/
def bytesOf (s : String) : Bytes :=
  s.toByteArray.data.toList

/-- The text whose UTF-8 form is `bs`, if there is one. -/
def ofBytes? (bs : Bytes) : Option String :=
  String.fromUTF8? ⟨bs.toArray⟩

/-- Reading the bytes of a text gives the text back. -/
theorem ofBytes?_bytesOf (s : String) : ofBytes? (bytesOf s) = some s := by
  have h : (⟨s.toByteArray.data.toList.toArray⟩ : ByteArray) = s.toByteArray := by simp
  unfold ofBytes? bytesOf
  rw [h]
  simp only [String.fromUTF8?, s.isValidUTF8, dite_true]
  rfl

/-- The text that bytes stand for; the empty text if they stand for none. -/
def ofBytes (bs : Bytes) : String :=
  (ofBytes? bs).getD ""

/-- The number of bytes, counted on from `counted`, up to the first that is no part of a character;
at most `rounds` further characters are looked at. -/
def validLengthFrom (bs : ByteArray) : (rounds counted : Nat) → Nat
  | 0, counted => counted
  | rounds + 1, counted =>
    match bs.utf8DecodeChar? counted with
    | some c => validLengthFrom bs rounds (counted + c.utf8Size)
    | none => counted

/-- The number of bytes up to the first that is no part of a character. -/
def validLength (bs : Bytes) : Nat :=
  validLengthFrom ⟨bs.toArray⟩ bs.length 0

/-- The text whose characters have the given bytes as their code points. -/
def ofAscii (bs : Bytes) : String :=
  String.ofList (bs.map fun b => Char.ofNat b.toNat)

/-- Characters are written one after the other. -/
theorem bytesOf_ofList (cs : List Char) :
    bytesOf (String.ofList cs) = cs.flatMap String.utf8EncodeChar := by
  simp [bytesOf, List.utf8Encode]

/-- The bytes of a text are those of its characters. -/
theorem bytesOf_eq_flatMap (s : String) :
    bytesOf s = s.toList.flatMap String.utf8EncodeChar := by
  rw [← bytesOf_ofList, String.ofList_toList]

/-- The bytes of two texts in a row. -/
@[simp] theorem bytesOf_append (s t : String) : bytesOf (s ++ t) = bytesOf s ++ bytesOf t := by
  simp [bytesOf]

/-- A character of the ASCII range is written as one byte. -/
theorem utf8EncodeChar_of_toNat_lt {c : Char} (h : c.toNat < 0x80) :
    String.utf8EncodeChar c = [UInt8.ofNat c.toNat] :=
  if_pos (Nat.le_of_lt_succ h)

/-- A byte of the ASCII range is the whole of its character. -/
theorem utf8EncodeChar_of_ascii {b : UInt8} (h : b < 0x80) :
    String.utf8EncodeChar (Char.ofNat b.toNat) = [b] := by
  have table : ∀ k : Fin 128, String.utf8EncodeChar (Char.ofNat k.val) = [UInt8.ofNat k.val] := by
    decide
  have := table ⟨b.toNat, UInt8.lt_iff_toNat_lt.mp h⟩
  simpa using this

/-- Bytes of the ASCII range are those of the text that they spell. -/
theorem bytesOf_ofAscii {bs : Bytes} (h : ∀ b ∈ bs, b < 0x80) : bytesOf (ofAscii bs) = bs := by
  rw [ofAscii, bytesOf_ofList]
  induction bs with
  | nil => rfl
  | cons b rest ih =>
    rw [List.map_cons, List.flatMap_cons, utf8EncodeChar_of_ascii (h b (by simp)),
      ih fun c hc => h c (by simp [hc])]
    rfl

end Text

end ChainView
