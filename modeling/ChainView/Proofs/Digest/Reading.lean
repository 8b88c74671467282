import ChainView.Proofs.Digest
import ChainView.Proofs.Json.Spelling

/-!
# The grammar of digests

`Digest.ofHex` works on bytes: it drops the mark, checks the number of bytes, looks for a byte that
is no digit, and joins the digits in pairs.  Here its answer is described on the characters of the
text instead.  The bytes behind the mark are digits exactly if the characters behind it are, and
then there are as many of the one as of the other; the pairs that are joined, written again, are the
same digits in lowercase.  So a text is accepted exactly if sixty-four digits stand behind the mark,
and every other text has one refusal, which its bytes decide.
-/

namespace ChainView

/-! ## Characters and bytes -/

/-- The hexadecimal digits of either case. -/
def Ascii.hexChars : List Char := "0123456789abcdefABCDEF".toList

/-- A text of hexadecimal digits alone. -/
def Ascii.AllHex (s : String) : Prop := ∀ c ∈ s.toList, c ∈ hexChars

/-- The hexadecimal digits are ASCII characters, and each becomes the lowercase digit of its value.
-/
lemma Ascii.hexChars_table : ∀ c ∈ hexChars, c.toNat < 128 ∧ ∃ n : Fin 16,
    hexDigit? (UInt8.ofNat c.toNat) = some n.val ∧ c.toLower = Char.ofNat (hexDigit n).toNat := by
  have table : hexChars.all (fun c => c.toNat < 128 ∧ ∃ n : Fin 16,
      hexDigit? (UInt8.ofNat c.toNat) = some n.val ∧
        c.toLower = Char.ofNat (hexDigit n).toNat) = true := by
    decide +kernel
  simpa only [List.all_eq_true, decide_eq_true_eq] using table

/-- A character is a hexadecimal digit exactly if all its bytes are. -/
lemma Ascii.mem_hexChars_iff (c : Char) :
    c ∈ hexChars ↔ ∀ b ∈ String.utf8EncodeChar c, (hexDigit? b).isSome = true := by
  by_cases hascii : c.toNat < 128
  · have table : ∀ m : Fin 128,
        Char.ofNat m ∈ hexChars ↔ (hexDigit? (UInt8.ofNat m)).isSome = true := by
      decide +kernel
    rw [Text.utf8EncodeChar_of_toNat_lt hascii, List.forall_mem_singleton]
    simpa using table ⟨c.toNat, hascii⟩
  · -- The first byte of a character beyond the ASCII range is beyond it too, and so no digit.
    have hbeyond : ∀ b ∈ String.utf8EncodeChar c, hexDigit? b = none := by
      intro b hb
      have hle := Json.le_of_mem_utf8EncodeChar (Nat.le_of_not_lt hascii) hb
      have table : ∀ m : Fin 256, 128 ≤ m.val → hexDigit? (UInt8.ofNat m) = none := by
        decide +kernel
      simpa using table ⟨b.toNat, b.toNat_lt⟩ hle
    constructor
    · intro hc
      exact absurd (hexChars_table c hc).1 hascii
    · intro hall
      obtain ⟨b, hb⟩ := List.exists_mem_of_ne_nil _ (String.utf8EncodeChar_ne_nil (c := c))
      have hsome := hall b hb
      rw [hbeyond b hb] at hsome
      exact absurd hsome (by decide)

/-- A hexadecimal digit is written as one byte, and becomes the lowercase digit of its value. -/
lemma Ascii.exists_byte_of_mem_hexChars {c : Char} (hc : c ∈ hexChars) :
    ∃ b n, String.utf8EncodeChar c = [b] ∧ hexDigit? b = some n ∧
      c.toLower = Char.ofNat (hexDigit n).toNat := by
  obtain ⟨hascii, n, hvalue, hlower⟩ := hexChars_table c hc
  exact ⟨_, n, Text.utf8EncodeChar_of_toNat_lt hascii, hvalue, hlower⟩

namespace Digest

/-- The lowercase digit of the same value as a digit. -/
def lowerDigit (b : UInt8) : UInt8 := Ascii.hexDigit ((Ascii.hexDigit? b).getD 0)

/-- A text is made of digits exactly if its bytes are. -/
lemma allHex_iff (s : String) :
    Ascii.AllHex s ↔ ∀ b ∈ Text.bytesOf s, (Ascii.hexDigit? b).isSome = true := by
  rw [Text.bytesOf_eq_flatMap, List.forall_mem_flatMap]
  exact forall₂_congr fun c _ => Ascii.mem_hexChars_iff c

/-- In lowercase, digits are the lowercase digits of the same values, one byte each. -/
lemma map_toLower_of_hexChars {cs : List Char} (h : ∀ c ∈ cs, c ∈ Ascii.hexChars) :
    cs.map Char.toLower =
      ((cs.flatMap String.utf8EncodeChar).map lowerDigit).map fun b => Char.ofNat b.toNat := by
  induction cs with
  | nil => rfl
  | cons c cs ih =>
    obtain ⟨hc, hcs⟩ := List.forall_mem_cons.mp h
    obtain ⟨b, n, hencode, hvalue, hlower⟩ := Ascii.exists_byte_of_mem_hexChars hc
    have hb : lowerDigit b = Ascii.hexDigit n := by rw [lowerDigit, hvalue, Option.getD_some]
    rw [List.map_cons, List.flatMap_cons, hencode, List.singleton_append, List.map_cons,
      List.map_cons, hb, hlower, ih hcs]

/-- A text of digits in lowercase is the text of the lowercase digits of the same values. -/
lemma lowercase_of_allHex {s : String} (h : Ascii.AllHex s) :
    Ascii.lowercase s = Text.ofAscii ((Text.bytesOf s).map lowerDigit) := by
  rw [Ascii.lowercase, map_toLower_of_hexChars h, ← Text.bytesOf_eq_flatMap]
  rfl

/-- A text of digits has as many characters as bytes. -/
lemma length_bytesOf_of_allHex {s : String} (h : Ascii.AllHex s) :
    (Text.bytesOf s).length = s.length := by
  have hlower := congrArg List.length (map_toLower_of_hexChars h)
  rw [← Text.bytesOf_eq_flatMap] at hlower
  simpa [String.length_toList] using hlower.symm

/-! ## The mark -/

/-- The text behind one leading `0x`. -/
def unmarked (s : String) : String :=
  match s.toList with
  | '0' :: 'x' :: cs => String.ofList cs
  | _ => s

/-- A text whose first byte is an ASCII character begins with this character. -/
lemma exists_cons_of_flatMap_utf8EncodeChar {cs : List Char} {b : UInt8} {bs : Bytes}
    (h : cs.flatMap String.utf8EncodeChar = b :: bs) (hb : b.toNat < 128) :
    ∃ rest, cs = Char.ofNat b.toNat :: rest ∧ rest.flatMap String.utf8EncodeChar = bs := by
  cases cs with
  | nil => simp at h
  | cons c cs =>
    rw [List.flatMap_cons] at h
    have hascii : c.toNat < 128 := by
      by_contra hbeyond
      obtain ⟨a, as, hencode⟩ := List.exists_cons_of_ne_nil (String.utf8EncodeChar_ne_nil (c := c))
      have ha : a = b := by
        rw [hencode] at h
        exact (List.cons.inj h).1
      have hle := Json.le_of_mem_utf8EncodeChar (Nat.le_of_not_lt hbeyond)
        (hencode ▸ List.mem_cons_self)
      rw [ha] at hle
      omega
    rw [Text.utf8EncodeChar_of_toNat_lt hascii, List.singleton_append] at h
    obtain ⟨hc, hcs⟩ := List.cons.inj h
    have hnat : b.toNat = c.toNat := by
      rw [← hc]
      exact UInt8.toNat_ofNat_of_lt' (Nat.lt_trans hascii (by decide))
    exact ⟨cs, by rw [hnat, Char.ofNat_toNat], hcs⟩

/-- Dropping the mark from the bytes of a text is dropping it from the text. -/
lemma bytesOf_unmarked (s : String) : Text.bytesOf (unmarked s) = stripMark (Text.bytesOf s) := by
  have hzero : String.utf8EncodeChar '0' = [0x30] := by decide
  have hx : String.utf8EncodeChar 'x' = [0x78] := by decide
  rw [Text.bytesOf_eq_flatMap s]
  unfold unmarked
  split
  · rename_i cs hmark
    rw [hmark, Text.bytesOf_ofList, List.flatMap_cons, List.flatMap_cons, hzero, hx]
    rfl
  · rename_i hmark
    unfold stripMark
    split
    · rename_i bs hbs
      obtain ⟨rest, hs, hrest⟩ := exists_cons_of_flatMap_utf8EncodeChar hbs (by decide)
      obtain ⟨cs, hcs, -⟩ := exists_cons_of_flatMap_utf8EncodeChar hrest (by decide)
      rw [hcs] at hs
      exact absurd hs (hmark cs)
    · exact Text.bytesOf_eq_flatMap s

/-! ## Pairs of digits -/

/-- A byte that is no digit stands first at a position: the bytes before it are digits, and there
are as many of them as the position says. -/
def FirstBadAt (bs : Bytes) (b : UInt8) (position : ℕ) : Prop :=
  ∃ before after, bs = before ++ b :: after ∧ before.length = position ∧
    (∀ a ∈ before, (Ascii.hexDigit? a).isSome = true) ∧ Ascii.hexDigit? b = none

/-- The scan for a bad digit finds the first one. -/
lemma firstBadDigit_eq_some_iff {bs : Bytes} {b : UInt8} {start position : ℕ} :
    firstBadDigit start bs = some (b, position) ↔
      ∃ n, position = start + n ∧ FirstBadAt bs b n := by
  induction bs generalizing start with
  | nil => simp [firstBadDigit, FirstBadAt]
  | cons a bs ih =>
    rw [firstBadDigit]
    split
    case isTrue ha =>
      rw [ih]
      constructor
      · rintro ⟨n, rfl, before, after, rfl, rfl, hbefore, hb⟩
        exact ⟨before.length + 1, by omega, a :: before, after, rfl, rfl,
          List.forall_mem_cons.mpr ⟨ha, hbefore⟩, hb⟩
      · rintro ⟨n, rfl, before, after, hbs, rfl, hbefore, hb⟩
        cases before with
        | nil =>
          obtain ⟨rfl, -⟩ := List.cons.inj hbs
          rw [hb] at ha
          exact absurd ha (by decide)
        | cons c before =>
          obtain ⟨rfl, hrest⟩ := List.cons.inj hbs
          exact ⟨before.length, by simp only [List.length_cons]; omega, before, after, hrest, rfl,
            (List.forall_mem_cons.mp hbefore).2, hb⟩
    case isFalse ha =>
      have hnone : Ascii.hexDigit? a = none := by simpa using ha
      constructor
      · rintro ⟨⟩
        exact ⟨0, rfl, [], bs, rfl, rfl, by simp, hnone⟩
      · rintro ⟨n, rfl, before, after, hbs, rfl, hbefore, hb⟩
        cases before with
        | nil =>
          obtain ⟨rfl, -⟩ := List.cons.inj hbs
          rfl
        | cons c before =>
          obtain ⟨rfl, -⟩ := List.cons.inj hbs
          exact absurd (hbefore _ List.mem_cons_self) ha

/-- Two digits joined and written again are the two digits in lowercase. -/
lemma hexPair_join {a b : UInt8} (ha : (Ascii.hexDigit? a).isSome = true)
    (hb : (Ascii.hexDigit? b).isSome = true) :
    hexPair ((Ascii.hexDigit? a).getD 0 * 16 + (Ascii.hexDigit? b).getD 0).toUInt8 =
      [lowerDigit a, lowerDigit b] := by
  obtain ⟨n, hn⟩ := Option.isSome_iff_exists.mp ha
  obtain ⟨m, hm⟩ := Option.isSome_iff_exists.mp hb
  have hnlt := Ascii.hexDigit?_lt hn
  have hmlt := Ascii.hexDigit?_lt hm
  have hbyte : (n * 16 + m).toUInt8.toNat = n * 16 + m :=
    UInt8.toNat_ofNat_of_lt' (show n * 16 + m < 256 by omega)
  have hdiv : (n * 16 + m) / 16 = n := by omega
  have hmod : (n * 16 + m) % 16 = m := by omega
  simp only [hexPair, lowerDigit, hn, hm, Option.getD_some, hbyte, hdiv, hmod]

/-- Pairs of digits joined and written again are the digits in lowercase. -/
lemma flatMap_hexPair_joinPairs {bs : Bytes} (hdigits : ∀ b ∈ bs, (Ascii.hexDigit? b).isSome = true)
    (heven : bs.length % 2 = 0) : (joinPairs bs).flatMap hexPair = bs.map lowerDigit := by
  induction bs using joinPairs.induct with
  | case1 a b rest ih =>
    obtain ⟨ha, hb, hrest⟩ : _ ∧ _ ∧ _ := by
      simpa only [List.forall_mem_cons] using hdigits
    have hrestEven : rest.length % 2 = 0 := by
      simp only [List.length_cons] at heven
      omega
    rw [joinPairs, List.flatMap_cons, hexPair_join ha hb, ih hrest hrestEven]
    rfl
  | case2 bs hshort =>
    rcases bs with _ | ⟨a, _ | ⟨b, rest⟩⟩
    · rfl
    · simp at heven
    · exact absurd rfl (hshort a b rest)

/-- An even number of bytes is joined to half as many. -/
lemma length_joinPairs (bs : Bytes) : (joinPairs bs).length = bs.length / 2 := by
  induction bs using joinPairs.induct with
  | case1 a b rest ih =>
    rw [joinPairs, List.length_cons, List.length_cons, List.length_cons, ih]
    omega
  | case2 bs hshort =>
    rcases bs with _ | ⟨a, _ | ⟨b, rest⟩⟩
    · rfl
    · rw [List.length_singleton]
      rfl
    · exact absurd rfl (hshort a b rest)

/-! ## The outcomes of reading bytes -/

/-- Bytes are refused for their odd number exactly if it is odd. -/
lemma ofDigits_eq_oddLength_iff {bs : Bytes} :
    ofDigits bs = .error .oddLength ↔ bs.length % 2 = 1 := by
  unfold ofDigits
  split
  case isTrue hodd => simp [hodd]
  case isFalse heven =>
    simp only [heven, iff_false]
    split
    · simp
    · split <;> simp

/-- Bytes are refused for a bad digit exactly if their number is even and it stands first. -/
lemma ofDigits_eq_badDigit_iff {bs : Bytes} {b : UInt8} {position : ℕ} :
    ofDigits bs = .error (.badDigit b position) ↔
      bs.length % 2 = 0 ∧ FirstBadAt bs b position := by
  have hscan : firstBadDigit 0 bs = some (b, position) ↔ FirstBadAt bs b position := by
    simp [firstBadDigit_eq_some_iff]
  rw [← hscan]
  unfold ofDigits
  split
  case isTrue hodd => simp [hodd]
  case isFalse heven =>
    split
    · rename_i hbad
      simp [hbad, Nat.mod_two_ne_one.mp heven]
    · rename_i hbad
      simp only [hbad, reduceCtorEq, and_false, iff_false]
      split <;> simp

/-- Bytes are refused for the number that they write exactly if they are digits, in pairs. -/
lemma ofDigits_eq_wrongLength_iff {bs : Bytes} {got : ℕ} :
    ofDigits bs = .error (.wrongLength got) ↔
      (∀ b ∈ bs, (Ascii.hexDigit? b).isSome = true) ∧ bs.length = 2 * got ∧ got ≠ 32 := by
  rw [← @firstBadDigit_eq_none_iff 0]
  unfold ofDigits
  split
  case isTrue hodd =>
    simp only [Except.error.injEq, reduceCtorEq, false_iff]
    omega
  case isFalse heven =>
    split
    · rename_i hbad
      simp [hbad]
    · rename_i hbad
      dsimp only
      simp only [hbad, true_and, length_joinPairs]
      split
      · simp only [reduceCtorEq, false_iff]
        omega
      · simp only [Except.error.injEq, Refusal.wrongLength.injEq]
        omega

/-- Bytes are read as a digest exactly if they are sixty-four digits, and in lowercase those of the
digest. -/
lemma ofDigits_eq_ok_iff {bs : Bytes} {d : Digest} :
    ofDigits bs = .ok d ↔
      (∀ b ∈ bs, (Ascii.hexDigit? b).isSome = true) ∧ bs.length = 64 ∧
        bs.map lowerDigit = d.hexBytes := by
  rw [← @firstBadDigit_eq_none_iff 0]
  unfold ofDigits
  split
  case isTrue hodd =>
    simp only [reduceCtorEq, false_iff]
    omega
  case isFalse heven =>
    split
    · rename_i hbad
      simp [hbad]
    · rename_i hbad
      have hdigits := firstBadDigit_eq_none_iff.mp hbad
      have hpairs := flatMap_hexPair_joinPairs hdigits (Nat.mod_two_ne_one.mp heven)
      have hlength := length_joinPairs bs
      dsimp only
      simp only [hbad, true_and]
      split
      · rename_i h32
        constructor
        · rintro ⟨⟩
          exact ⟨by omega, hpairs.symm⟩
        · rintro ⟨-, hlower⟩
          have hwritten : (joinPairs bs).flatMap hexPair = d.bytes.flatMap hexPair :=
            hpairs.trans hlower
          have hjoined := congrArg joinPairs hwritten
          rw [joinPairs_hexBytes, joinPairs_hexBytes] at hjoined
          exact congrArg Except.ok (Digest.ext hjoined)
      · simp only [reduceCtorEq, false_iff]
        omega

/-! ## The outcomes of reading a text -/

/-- A refusal says that the text is no list of pairs of digits, rather than that there are too few
or too many of them. -/
def Refusal.invalidHex : Refusal → Bool
  | .oddLength | .badDigit _ _ => true
  | .wrongLength _ => false

/-- A text is refused as no hexadecimal text exactly if it has an odd number of bytes behind the
mark or a character there that is no digit. -/
lemma exists_invalidHex_iff {s : String} :
    (∃ r, ofHex s = .error r ∧ r.invalidHex = true) ↔
      (Text.bytesOf (unmarked s)).length % 2 = 1 ∨ ¬ Ascii.AllHex (unmarked s) := by
  rw [ofHex, ← bytesOf_unmarked, allHex_iff, ← @firstBadDigit_eq_none_iff 0]
  generalize Text.bytesOf (unmarked s) = bs
  constructor
  · rintro ⟨r, hr, hinvalid⟩
    cases r with
    | oddLength => exact .inl (ofDigits_eq_oddLength_iff.mp hr)
    | badDigit b position =>
      have hbad := (ofDigits_eq_badDigit_iff.mp hr).2
      rw [firstBadDigit_eq_some_iff.mpr ⟨position, (Nat.zero_add _).symm, hbad⟩]
      exact .inr (Option.some_ne_none _)
    | wrongLength got => exact absurd hinvalid Bool.false_ne_true
  · intro h
    by_cases hodd : bs.length % 2 = 1
    · exact ⟨.oddLength, ofDigits_eq_oddLength_iff.mpr hodd, rfl⟩
    · obtain ⟨⟨b, position⟩, hscan⟩ := Option.ne_none_iff_exists'.mp (h.resolve_left hodd)
      obtain ⟨n, -, hbad⟩ := firstBadDigit_eq_some_iff.mp hscan
      exact ⟨.badDigit b n,
        ofDigits_eq_badDigit_iff.mpr ⟨Nat.mod_two_ne_one.mp hodd, hbad⟩, rfl⟩

/-- A text is read as a digest exactly if sixty-four digits stand behind the mark and become those
of the digest in lowercase. -/
lemma ofHex_eq_ok_iff {s : String} {d : Digest} :
    ofHex s = .ok d ↔ Ascii.AllHex (unmarked s) ∧ (unmarked s).length = 64 ∧
      Ascii.lowercase (unmarked s) = d.toHex := by
  rw [ofHex, ← bytesOf_unmarked, ofDigits_eq_ok_iff, ← allHex_iff]
  refine and_congr_right fun hhex => and_congr ?_ ?_
  · rw [length_bytesOf_of_allHex hhex]
  · rw [lowercase_of_allHex hhex]
    constructor
    · intro hlower
      rw [hlower]
      rfl
    · intro htext
      have hascii : ∀ b ∈ (Text.bytesOf (unmarked s)).map lowerDigit, b < 0x80 := by
        intro b hb
        obtain ⟨a, ha, rfl⟩ := List.mem_map.mp hb
        obtain ⟨n, hn⟩ := Option.isSome_iff_exists.mp ((allHex_iff _).mp hhex a ha)
        rw [lowerDigit, hn]
        exact Ascii.hexDigit_lt (Ascii.hexDigit?_lt hn)
      rw [← d.bytesOf_toHex, ← htext, Text.bytesOf_ofAscii hascii]

/-- Sixty-four digits behind the mark are read as some digest. -/
lemma exists_ofHex_eq_ok {s : String} (hhex : Ascii.AllHex (unmarked s))
    (hlength : (unmarked s).length = 64) : ∃ d, ofHex s = .ok d := by
  cases hread : ofHex s with
  | ok d => exact ⟨d, rfl⟩
  | error r =>
    exfalso
    have hbytes := length_bytesOf_of_allHex hhex
    by_cases hinvalid : r.invalidHex = true
    · rcases exists_invalidHex_iff.mp ⟨r, hread, hinvalid⟩ with hodd | hbad
      · omega
      · exact hbad hhex
    · cases r with
      | wrongLength got =>
        rw [ofHex, ← bytesOf_unmarked] at hread
        obtain ⟨-, hgot, hne⟩ := ofDigits_eq_wrongLength_iff.mp hread
        omega
      | oddLength => exact hinvalid rfl
      | badDigit b position => exact hinvalid rfl

/-- Different digests have different texts. -/
lemma toHex_injective : Function.Injective toHex := by
  intro a b h
  have hread : (Except.ok a : Except Refusal Digest) = .ok b := by
    rw [← ofHex_toHex a, h, ofHex_toHex]
  exact Except.ok.inj hread

/-- **Reading a digest accepts exactly its grammar.**  A text is read as the digest `d` exactly if
behind one leading `0x`, if there is one, it has sixty-four hexadecimal digits of either case that
become the text of `d` in lowercase.  So reading undoes writing, with the mark and without it,
different digests are written differently, and an accepted text written again is its digits in
lowercase.  Every other text has one refusal: the number of bytes that it writes if it is made of
digits in pairs, which is then not thirty-two; its odd number of bytes, whatever they are; or the
first of its bytes that is no digit, with the position of this byte. -/
theorem ofHex_follows_grammar :
    (∀ s d, ofHex s = .ok d ↔ Ascii.AllHex (unmarked s) ∧ (unmarked s).length = 64 ∧
      Ascii.lowercase (unmarked s) = d.toHex) ∧
    (∀ s text, (ofHex s).map toHex = .ok text ↔ Ascii.AllHex (unmarked s) ∧
      (unmarked s).length = 64 ∧ text = Ascii.lowercase (unmarked s)) ∧
    (∀ d, ofHex d.toHex = .ok d ∧ ofHex ("0x" ++ d.toHex) = .ok d) ∧
    Function.Injective toHex ∧
    (∀ s got, ofHex s = .error (.wrongLength got) ↔ Ascii.AllHex (unmarked s) ∧
      (unmarked s).length = 2 * got ∧ got ≠ 32) ∧
    (∀ s, (∃ r, ofHex s = .error r ∧ r.invalidHex = true) ↔
      (unmarked s).utf8ByteSize % 2 = 1 ∨ ¬ Ascii.AllHex (unmarked s)) ∧
    (∀ s, ofHex s = .error .oddLength ↔ (unmarked s).utf8ByteSize % 2 = 1) ∧
    (∀ s b position, ofHex s = .error (.badDigit b position) ↔
      (unmarked s).utf8ByteSize % 2 = 0 ∧
        FirstBadAt (Text.bytesOf (unmarked s)) b position) := by
  have hsize : ∀ s : String, s.utf8ByteSize = (Text.bytesOf s).length := by
    intro s
    simp [Text.bytesOf]
  refine ⟨fun s d => ofHex_eq_ok_iff, ?_, fun d => ⟨d.ofHex_toHex, d.ofHex_toMarkedHex⟩,
    toHex_injective, ?_, ?_, ?_, ?_⟩
  · intro s text
    constructor
    · intro htext
      cases hread : ofHex s with
      | error r =>
        rw [hread] at htext
        cases htext
      | ok d =>
        rw [hread] at htext
        obtain ⟨hhex, hlength, hlower⟩ := ofHex_eq_ok_iff.mp hread
        exact ⟨hhex, hlength, (Except.ok.inj htext).symm.trans hlower.symm⟩
    · rintro ⟨hhex, hlength, rfl⟩
      obtain ⟨d, hread⟩ := exists_ofHex_eq_ok hhex hlength
      rw [hread, (ofHex_eq_ok_iff.mp hread).2.2]
      rfl
  · intro s got
    rw [ofHex, ← bytesOf_unmarked, ofDigits_eq_wrongLength_iff, ← allHex_iff]
    exact and_congr_right fun hhex => by rw [length_bytesOf_of_allHex hhex]
  · intro s
    rw [hsize, exists_invalidHex_iff]
  · intro s
    rw [ofHex, ← bytesOf_unmarked, ofDigits_eq_oddLength_iff, hsize]
  · intro s b position
    rw [ofHex, ← bytesOf_unmarked, ofDigits_eq_badDigit_iff, hsize]

end Digest

end ChainView
