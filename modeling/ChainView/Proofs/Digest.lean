import Mathlib.Tactic.Common
import ChainView.Digest

/-!
# The texts of a digest

A digest is read from its 64 digits, each in either case and with or without the mark `0x` in front.
A text of that form *spells* the digest, and reading it gives the digest back.  A character that
becomes a digit in lowercase is a digit of the same value, and the digits are read by their values
only; so it is enough to know the digits in lowercase.
-/

namespace ChainView

/-! ## Digits of either case -/

/-- A character that becomes a hexadecimal digit in lowercase is written as one byte, which is a
digit of the same value. -/
lemma Ascii.exists_byte_of_toLower {c : Char} {n : ℕ} (hn : n < 16)
    (hc : c.toLower = Char.ofNat (Ascii.hexDigit n).toNat) :
    ∃ b, String.utf8EncodeChar c = [b] ∧ Ascii.hexDigit? b = some n := by
  have hlow : ∀ k : Fin 16, (Char.ofNat (Ascii.hexDigit k).toNat).toNat < 128 := by decide
  have hascii : c.toNat < 128 := by
    have hlower : c.toLower.toNat < 128 := hc ▸ hlow ⟨n, hn⟩
    unfold Char.toLower at hlower
    split at hlower
    · rename_i hupper
      have hle := UInt32.le_iff_toNat_le.mp hupper.2
      exact Nat.lt_of_le_of_lt hle (by decide)
    · exact hlower
  have table : ∀ (m : Fin 128) (k : Fin 16),
      (Char.ofNat m).toLower = Char.ofNat (Ascii.hexDigit k).toNat →
        Ascii.hexDigit? (UInt8.ofNat m) = some k.val := by
    decide +kernel
  exact ⟨_, Text.utf8EncodeChar_of_toNat_lt hascii,
    table ⟨c.toNat, hascii⟩ ⟨n, hn⟩ (by simpa using hc)⟩

namespace Digest

/-- The characters that become the digits of some bytes in lowercase have the values of these
digits. -/
lemma map_hexDigit?_of_toLower {cs : List Char} {bs : Bytes}
    (hbs : ∀ b ∈ bs, ∃ n < 16, b = Ascii.hexDigit n)
    (hcs : cs.map Char.toLower = bs.map fun b => Char.ofNat b.toNat) :
    (cs.flatMap String.utf8EncodeChar).map Ascii.hexDigit? = bs.map Ascii.hexDigit? := by
  induction cs generalizing bs with
  | nil =>
    have hnil : bs = [] := by simpa using hcs.symm
    rw [hnil]
    rfl
  | cons c cs ih =>
    cases bs with
    | nil => simp at hcs
    | cons b bs =>
      obtain ⟨⟨n, hn, rfl⟩, hrest⟩ := List.forall_mem_cons.mp hbs
      rw [List.map_cons, List.map_cons] at hcs
      obtain ⟨hc, hcsRest⟩ := List.cons.inj hcs
      obtain ⟨a, hencode, ha⟩ := Ascii.exists_byte_of_toLower hn hc
      rw [List.flatMap_cons, hencode, List.singleton_append, List.map_cons, List.map_cons,
        ih hrest hcsRest, ha, Ascii.hexDigit?_hexDigit hn]

/-- A digest is written in lowercase digits. -/
lemma exists_hexDigit_of_mem_hexBytes (d : Digest) :
    ∀ b ∈ d.hexBytes, ∃ n < 16, b = Ascii.hexDigit n := by
  intro b hb
  obtain ⟨c, -, hc⟩ := List.mem_flatMap.mp hb
  have hlt := c.toNat_lt
  simp only [hexPair, List.mem_cons, List.not_mem_nil, or_false] at hc
  rcases hc with rfl | rfl
  · exact ⟨_, by omega, rfl⟩
  · exact ⟨_, by omega, rfl⟩

/-! ## Reading digits -/

/-- There is no bad digit exactly if all bytes are digits. -/
lemma firstBadDigit_eq_none_iff {position : ℕ} {bs : Bytes} :
    firstBadDigit position bs = none ↔ ∀ b ∈ bs, (Ascii.hexDigit? b).isSome = true := by
  induction bs generalizing position with
  | nil => simp [firstBadDigit]
  | cons b bs ih =>
    rw [firstBadDigit, List.forall_mem_cons]
    split
    · rename_i hb
      simp [ih, hb]
    · rename_i hb
      simp [hb]

/-- Of digits only their values are read. -/
lemma joinPairs_congr {bs cs : Bytes} (h : bs.map Ascii.hexDigit? = cs.map Ascii.hexDigit?) :
    joinPairs bs = joinPairs cs := by
  induction bs using joinPairs.induct generalizing cs with
  | case1 a b rest ih =>
    obtain ⟨a', cs', rfl, ha, h⟩ := List.map_eq_cons_iff.mp h.symm
    obtain ⟨b', rest', rfl, hb, hrest⟩ := List.map_eq_cons_iff.mp h
    rw [joinPairs, joinPairs, ha, hb, ih hrest.symm]
  | case2 bs hshort =>
    rcases bs with _ | ⟨a, _ | ⟨b, rest⟩⟩
    · rw [List.map_eq_nil_iff.mp h.symm]
    · obtain ⟨a', cs', rfl, -, h⟩ := List.map_eq_cons_iff.mp h.symm
      rw [List.map_eq_nil_iff.mp h]
      rfl
    · exact absurd rfl (hshort a b rest)

/-- Bytes of the same values as the digits of a digest are digits. -/
lemma digits_of_map_hexDigit? {d : Digest} {bs : Bytes}
    (h : bs.map Ascii.hexDigit? = d.hexBytes.map Ascii.hexDigit?) :
    ∀ b ∈ bs, (Ascii.hexDigit? b).isSome = true := by
  intro b hb
  have hmem : Ascii.hexDigit? b ∈ d.hexBytes.map Ascii.hexDigit? := h ▸ List.mem_map_of_mem hb
  obtain ⟨c, hc, heq⟩ := List.mem_map.mp hmem
  rw [← heq]
  exact d.hexBytes_digits c hc

/-- Digits of the same values as those of a digest are read as the digest. -/
lemma ofDigits_of_map_hexDigit? {d : Digest} {bs : Bytes}
    (h : bs.map Ascii.hexDigit? = d.hexBytes.map Ascii.hexDigit?) : ofDigits bs = .ok d := by
  have hlength : bs.length = d.hexBytes.length := by simpa using congrArg List.length h
  have hbad : firstBadDigit 0 bs = none :=
    firstBadDigit_eq_none_iff.mpr (digits_of_map_hexDigit? h)
  have hpairs : joinPairs bs = d.bytes := by
    rw [joinPairs_congr h, hexBytes, joinPairs_hexBytes]
  have heven : ¬ bs.length % 2 = 1 := by
    rw [hlength, d.length_hexBytes]
    decide
  simp only [ofDigits, if_neg heven, hbad, hpairs, dif_pos d.length_bytes]

/-! ## Spellings -/

/-- A text spells a digest: it is made of the digits of the digest, each in either case, and may
have the mark `0x` in front. -/
def SpelledBy (d : Digest) (s : String) : Prop :=
  ∃ digits : String, Ascii.lowercase digits = d.toHex ∧ (s = digits ∨ s = "0x" ++ digits)

/-- The text of a digest spells it. -/
lemma spelledBy_toHex (d : Digest) : d.SpelledBy d.toHex := by
  have table : ∀ k : Fin 16, (Char.ofNat (Ascii.hexDigit k).toNat).toLower =
      Char.ofNat (Ascii.hexDigit k).toNat := by decide
  refine ⟨d.toHex, ?_, .inl rfl⟩
  rw [Ascii.lowercase, toHex, Text.ofAscii, String.toList_ofList, List.map_map]
  congr 1
  apply List.map_congr_left
  intro b hb
  obtain ⟨n, hn, rfl⟩ := d.exists_hexDigit_of_mem_hexBytes b hb
  exact table ⟨n, hn⟩

/-- A text that spells a digest is read as the digest. -/
theorem ofHex_of_spelledBy {d : Digest} {s : String} (h : d.SpelledBy s) : ofHex s = .ok d := by
  obtain ⟨digits, hdigits, hs⟩ := h
  have hlower : digits.toList.map Char.toLower = d.hexBytes.map fun b => Char.ofNat b.toNat :=
    String.ofList_injective hdigits
  have hvalues := map_hexDigit?_of_toLower d.exists_hexDigit_of_mem_hexBytes hlower
  rw [← Text.bytesOf_eq_flatMap] at hvalues
  have hread := ofDigits_of_map_hexDigit? hvalues
  rcases hs with rfl | rfl
  · rw [ofHex, stripMark_of_digits (digits_of_map_hexDigit? hvalues), hread]
  · have hmark : Text.bytesOf "0x" = [0x30, 0x78] := by decide
    rw [ofHex, Text.bytesOf_append, hmark]
    exact hread

end Digest

end ChainView
