import Mathlib.Tactic.IntervalCases
import ChainView.Net.IpAddress
import ChainView.Proofs.Json.Records

/-!
# Addresses are read back as written

Every address is read from its text, also where the text leaves out a run of zero groups and where
it shows a version 4 address that is mapped into version 6 (`ofText?_text`).

A number is read back from its digits up to something that is not a digit (`readNumber_toDigits`).
The reader of groups looks for an embedded version 4 address before every group, which a text
without points does not have (`readV4_eq_none`), so it takes all groups that stand there
(`readGroups_groupChars`).  What the writer leaves out is a run of zeros (`longestRun_spec`), and
these are what the reader fills the gap with.
-/

namespace ChainView.IpAddress

/-! ## Numbers -/

/-- No digit follows. -/
def Stops (base : ℕ) (rest : List Char) : Prop :=
  ∀ c ∈ rest.head?, digit? base c = none

/-- The value of a digit comes back. -/
lemma digit?_digitChar {base d : ℕ} (hbase : base ≤ 16) (hd : d < base) :
    digit? base d.digitChar = some d := by
  have hlt : d < 16 := hd.trans_le hbase
  interval_cases d <;> simp [digit?, Nat.digitChar, hd]

/-- What writes a number are digits. -/
lemma isSome_digit?_of_mem_toDigits {base n : ℕ} (hbase : 1 < base) (hmax : base ≤ 16) {c : Char}
    (hc : c ∈ Nat.toDigits base n) : (digit? base c).isSome = true := by
  induction n using Nat.base_induction base hbase with
  | single m hm =>
    rw [Nat.toDigits_of_lt_base hm, List.mem_singleton] at hc
    rw [hc, digit?_digitChar hmax hm, Option.isSome_some]
  | digit m d hd hm ih =>
    rw [← Nat.toDigits_append_toDigits hbase hm hd, Nat.toDigits_of_lt_base hd, List.mem_append,
      List.mem_singleton] at hc
    rcases hc with hc | rfl
    · exact ih hc
    · rw [digit?_digitChar hmax hd, Option.isSome_some]

/-- Digits write the number that they are made of. -/
lemma digitsValue_toDigits {base : ℕ} (n : ℕ) (hbase : 1 < base) (hmax : base ≤ 16) :
    digitsValue base (Nat.toDigits base n) = n := by
  induction n using Nat.base_induction base hbase with
  | single m hm =>
    rw [Nat.toDigits_of_lt_base hm]
    simp [digitsValue, digit?_digitChar hmax hm]
  | digit m d hd hm ih =>
    rw [← Nat.toDigits_append_toDigits hbase hm hd, Nat.toDigits_of_lt_base hd, digitsValue,
      List.foldl_append, ← digitsValue, ih, List.foldl_cons, List.foldl_nil,
      digit?_digitChar hmax hd, Option.getD_some, Nat.mul_comm]

/-- A number with more than one digit does not begin with a zero. -/
lemma head?_toDigits_ne_zero {base n : ℕ} (hbase : 1 < base) (hn : base ≤ n) :
    (Nat.toDigits base n).head? ≠ some '0' := by
  induction n using Nat.base_induction base hbase with
  | single m hm => exact absurd hm (Nat.not_lt.mpr hn)
  | digit m d hd hm ih =>
    rw [← Nat.toDigits_append_toDigits hbase hm hd,
      List.head?_append_of_ne_nil _ Nat.toDigits_ne_nil]
    rcases lt_or_ge m base with hlt | hge
    · rw [Nat.toDigits_of_lt_base hlt, List.head?_cons, ne_eq, Option.some.injEq,
        Nat.digitChar_eq_zero]
      exact hm.ne'
    · exact ih hge

/-- A number is read up to something that is not a digit. -/
lemma readNumber_toDigits {base most n : ℕ} {rest : List Char} (hbase : 1 < base)
    (hmax : base ≤ 16) (hmost : 0 < most) (hn : n < base ^ most) (hrest : Stops base rest) :
    readNumber base most (Nat.toDigits base n ++ rest) = some (Nat.toDigits base n, n, rest) := by
  have hstop : rest.takeWhile (fun c => (digit? base c).isSome) = [] := by
    cases rest with
    | nil => rfl
    | cons c rest => simp [hrest c rfl]
  have hdigits : (Nat.toDigits base n ++ rest).takeWhile (fun c => (digit? base c).isSome)
      = Nat.toDigits base n := by
    rw [List.takeWhile_append_of_pos fun c hc => isSome_digit?_of_mem_toDigits hbase hmax hc,
      hstop, List.append_nil]
  have hlength : ¬(most < (Nat.toDigits base n).length) :=
    Nat.not_lt.mpr ((Nat.length_toDigits_le_iff hbase hmost).mpr hn)
  simp [readNumber, hdigits, hlength, digitsValue_toDigits n hbase hmax]

/-- Where there is no digit, no number is read. -/
lemma readNumber_eq_none {base : ℕ} {cs : List Char} (h : Stops base cs) (most : ℕ) :
    readNumber base most cs = none := by
  cases cs with
  | nil => rfl
  | cons c cs => simp [readNumber, h c rfl]

/-- A number leaves the end of the text. -/
lemma suffix_of_readNumber {base most n : ℕ} {cs ds rest : List Char}
    (h : readNumber base most cs = some (ds, n, rest)) : rest <:+ cs := by
  unfold readNumber at h
  dsimp only at h
  split at h
  · cases h
  · cases h
    exact List.drop_suffix _ _

/-- A byte is read up to something that is not a digit. -/
lemma readByte_toDigits (a : UInt8) {rest : List Char} (hrest : Stops 10 rest) :
    readByte (Nat.toDigits 10 a.toNat ++ rest) = some (a, rest) := by
  have hlt : a.toNat < 256 := a.toNat_lt
  have hzero : ¬((Nat.toDigits 10 a.toNat).head? = some '0' ∧
      1 < (Nat.toDigits 10 a.toNat).length) := by
    rintro ⟨hhead, hlength⟩
    refine head?_toDigits_ne_zero (by decide) (Nat.not_lt.mp fun hten => ?_) hhead
    rw [Nat.toDigits_of_lt_base hten] at hlength
    exact Nat.lt_irrefl _ hlength
  have hrange : ¬(255 < a.toNat) := by omega
  rw [readByte, readNumber_toDigits (by decide) (by decide) (by decide) (by omega) hrest]
  simp only [hzero, hrange, or_self, if_false]
  rw [Nat.toUInt8_eq, UInt8.ofNat_toNat]

/-- A group is read up to something that is not a digit. -/
lemma readGroup_toDigits (g : UInt16) {rest : List Char} (hrest : Stops 16 rest) :
    readGroup (Nat.toDigits 16 g.toNat ++ rest) = some (g, rest) := by
  have hlt : g.toNat < 16 ^ 4 := g.toNat_lt
  rw [readGroup, readNumber_toDigits (by decide) (by decide) (by decide) hlt hrest]
  simp

/-- Where there is no digit, no group is read. -/
lemma readGroup_eq_none {cs : List Char} (h : Stops 16 cs) : readGroup cs = none := by
  rw [readGroup, readNumber_eq_none h]

/-! ## Version 4 -/

/-- A version 4 address is read up to something that is not a digit. -/
lemma readV4_v4Chars (a b c d : UInt8) {rest : List Char} (hrest : Stops 10 rest) :
    readV4 (v4Chars a b c d ++ rest) = some ((a, b, c, d), rest) := by
  have hpoint (cs : List Char) : Stops 10 ('.' :: cs) := by
    rintro c ⟨⟩
    decide
  simp [readV4, v4Chars, behind, readByte_toDigits, hpoint, hrest]

/-- A version 4 address is read from its text. -/
lemma readV4_v4Chars_self (a b c d : UInt8) :
    readV4 (v4Chars a b c d) = some ((a, b, c, d), []) := by
  have hread : readV4 (v4Chars a b c d ++ []) = some ((a, b, c, d), []) :=
    readV4_v4Chars a b c d (by rintro c ⟨⟩)
  rwa [List.append_nil] at hread

/-- A byte leaves the end of the text. -/
lemma suffix_of_readByte {cs rest : List Char} {a : UInt8} (h : readByte cs = some (a, rest)) :
    rest <:+ cs := by
  unfold readByte at h
  split at h
  · cases h
  · rename_i hnumber
    split at h
    · cases h
    · cases h
      exact suffix_of_readNumber hnumber

/-- Without a point there is no version 4 address. -/
lemma readV4_eq_none {cs : List Char} (h : '.' ∉ cs) : readV4 cs = none := by
  unfold readV4
  cases hbyte : readByte cs with
  | none => rfl
  | some result =>
    obtain ⟨a, rest⟩ := result
    have hpoint : '.' ∉ rest := fun hmem => h ((suffix_of_readByte hbyte).subset hmem)
    cases rest with
    | nil => rfl
    | cons c rest =>
      have hne : c ≠ '.' := fun hc => hpoint (hc ▸ List.mem_cons_self)
      simp [behind, hne]

/-! ## Groups -/

/-- A colon stops a group. -/
lemma stops_colon (cs : List Char) : Stops 16 (':' :: cs) := by
  rintro c ⟨⟩
  decide

/-- Groups behind colons. -/
def tailChars (gs : List UInt16) : List Char :=
  gs.flatMap fun g => ':' :: Nat.toDigits 16 g.toNat

/-- Groups are written as the first one with the others behind colons. -/
lemma groupChars_cons (g : UInt16) (gs : List UInt16) :
    groupChars (g :: gs) = Nat.toDigits 16 g.toNat ++ tailChars gs := by
  induction gs generalizing g with
  | nil => rw [groupChars, tailChars, List.flatMap_nil, List.append_nil]
  | cons h gs ih =>
    rw [groupChars, ih, tailChars, tailChars, List.flatMap_cons, List.cons_append]
    simp

/-- There is no point in hexadecimal digits. -/
lemma point_notMem_toDigits (n : ℕ) : '.' ∉ Nat.toDigits 16 n := by
  intro hpoint
  have hdigit := isSome_digit?_of_mem_toDigits (by decide) (by decide) hpoint
  revert hdigit
  decide

/-- There is no point in groups behind colons. -/
lemma point_notMem_tailChars (gs : List UInt16) : '.' ∉ tailChars gs := by
  simp [tailChars, point_notMem_toDigits]

/-- There is no point in groups. -/
lemma point_notMem_groupChars (gs : List UInt16) : '.' ∉ groupChars gs := by
  cases gs with
  | nil => simp [groupChars]
  | cons g gs =>
    rw [groupChars_cons, List.mem_append, not_or]
    exact ⟨point_notMem_toDigits _, point_notMem_tailChars gs⟩

/-- What may stand behind groups: nothing, or the gap where groups are left out. -/
inductive EndsGroups : List Char → Prop
  /-- The end of the text. -/
  | nil : EndsGroups []
  /-- The gap, behind which there is no point. -/
  | gap {rest : List Char} (h : '.' ∉ rest) : EndsGroups (':' :: ':' :: rest)

namespace EndsGroups

variable {rest : List Char}

/-- It has no point. -/
lemma point_notMem (h : EndsGroups rest) : '.' ∉ rest := by
  cases h <;> simp [*]

/-- It stops a group. -/
lemma stops (h : EndsGroups rest) : Stops 16 rest := by
  cases h with
  | nil => rintro c ⟨⟩
  | gap _ => exact stops_colon _

/-- It is no further group. -/
lemma behind_eq_none (h : EndsGroups rest) : behind ':' readGroup rest = none := by
  cases h with
  | nil => rfl
  | gap _ => rw [behind, if_pos rfl, readGroup_eq_none (stops_colon _)]

end EndsGroups

/-- Without a point there is no version 4 address behind a separator. -/
lemma behind_readV4_eq_none {cs : List Char} (h : '.' ∉ cs) : behind ':' readV4 cs = none := by
  cases cs with
  | nil => rfl
  | cons c cs =>
    rw [behind, readV4_eq_none fun hpoint => h (List.mem_cons_of_mem _ hpoint), ite_self]

section ReadGroups

variable {most : ℕ} {first ended : Bool} {cs next rest : List Char} {g : UInt16} {gs : List UInt16}

/-- Where there is no further group, and no version 4 address for lack of points, none is read. -/
lemma readGroups_of_none (hpoint : '.' ∉ cs)
    (hgroup : (if first then readGroup cs else behind ':' readGroup cs) = none) :
    readGroups (most + 1) first cs = ([], false, cs) := by
  simp only [readGroups, readV4_eq_none hpoint, behind_readV4_eq_none hpoint, ite_self, hgroup]

/-- A group that is no version 4 address for lack of points is read, and then the others. -/
lemma readGroups_of_some (hpoint : '.' ∉ cs)
    (hgroup : (if first then readGroup cs else behind ':' readGroup cs) = some (g, next))
    (hnext : readGroups most false next = (gs, ended, rest)) :
    readGroups (most + 1) first cs = (g :: gs, ended, rest) := by
  simp only [readGroups, readV4_eq_none hpoint, behind_readV4_eq_none hpoint, ite_self, hgroup,
    hnext]

/-- What stands behind groups stops the first of them, whether or not there are others between. -/
lemma stops_tailChars (hrest : EndsGroups rest) (gs : List UInt16) :
    Stops 16 (tailChars gs ++ rest) := by
  cases gs with
  | nil => exact hrest.stops
  | cons g gs => exact stops_colon _

/-- All groups behind colons are read. -/
lemma readGroups_tailChars (hrest : EndsGroups rest) (hmost : gs.length ≤ most) :
    readGroups most false (tailChars gs ++ rest) = (gs, false, rest) := by
  induction gs generalizing most with
  | nil =>
    cases most with
    | zero => rfl
    | succ most => exact readGroups_of_none hrest.point_notMem hrest.behind_eq_none
  | cons g gs ih =>
    obtain ⟨most, rfl⟩ := Nat.exists_eq_add_one_of_ne_zero (Nat.ne_zero_of_lt hmost)
    have htext : tailChars (g :: gs) ++ rest
        = ':' :: (Nat.toDigits 16 g.toNat ++ (tailChars gs ++ rest)) := by
      simp [tailChars]
    refine readGroups_of_some (List.not_mem_append (point_notMem_tailChars _) hrest.point_notMem)
      ?_ (ih (Nat.le_of_succ_le_succ hmost))
    rw [htext, if_neg Bool.false_ne_true, behind, if_pos rfl,
      readGroup_toDigits g (stops_tailChars hrest gs)]

/-- All groups in a row are read. -/
lemma readGroups_groupChars (hrest : EndsGroups rest) (hmost : gs.length ≤ most) :
    readGroups most true (groupChars gs ++ rest) = (gs, false, rest) := by
  cases gs with
  | nil =>
    cases most with
    | zero => rfl
    | succ most =>
      refine readGroups_of_none hrest.point_notMem ?_
      rw [if_pos rfl]
      exact readGroup_eq_none hrest.stops
  | cons g gs =>
    obtain ⟨most, rfl⟩ := Nat.exists_eq_add_one_of_ne_zero (Nat.ne_zero_of_lt hmost)
    refine readGroups_of_some (List.not_mem_append (point_notMem_groupChars _) hrest.point_notMem)
      ?_ (readGroups_tailChars hrest (Nat.le_of_succ_le_succ hmost))
    rw [if_pos rfl, groupChars_cons, List.append_assoc,
      readGroup_toDigits g (stops_tailChars hrest gs)]

end ReadGroups

/-! ## The gap -/

/-- The zero groups in front are as many zeros. -/
lemma take_zeroCount (gs : List UInt16) :
    gs.take (zeroCount gs) = List.replicate (zeroCount gs) 0 := by
  have htake : gs.take (zeroCount gs) = gs.takeWhile (· = 0) :=
    (List.prefix_iff_eq_take.mp (List.takeWhile_prefix _)).symm
  rw [htake]
  refine List.eq_replicate_iff.mpr ⟨rfl, fun g hg => ?_⟩
  have hall := List.all_takeWhile (p := fun g : UInt16 => decide (g = 0)) (l := gs)
  simpa using List.all_eq_true.mp hall g hg

/-- The longest run is one of zeros. -/
lemma longestRun_spec (gs : List UInt16) :
    (gs.drop (longestRun gs).1).take (longestRun gs).2
      = List.replicate (longestRun gs).2 0 := by
  unfold longestRun
  -- the best run so far is one of zeros, whatever positions were looked at
  suffices h : ∀ (positions : List ℕ) (best : ℕ × ℕ),
      (gs.drop best.1).take best.2 = List.replicate best.2 0 →
        let run := positions.foldl (fun best i =>
          if best.2 < zeroCount (gs.drop i) then (i, zeroCount (gs.drop i)) else best) best
        (gs.drop run.1).take run.2 = List.replicate run.2 0 from h _ _ (by simp)
  intro positions
  induction positions with
  | nil => exact fun best hbest => hbest
  | cons i positions ih =>
    intro best hbest
    refine ih _ ?_
    dsimp only
    split_ifs
    · exact take_zeroCount _
    · exact hbest

/-- The groups are those before the longest run, the run, and those behind it. -/
lemma split_longestRun (gs : List UInt16) :
    gs.take (longestRun gs).1 ++ List.replicate (longestRun gs).2 0 ++
      gs.drop ((longestRun gs).1 + (longestRun gs).2) = gs := by
  rw [← longestRun_spec, List.append_assoc, ← List.drop_drop, List.take_append_drop,
    List.take_append_drop]

/-! ## Version 6 -/

/-- Groups that are all written are read. -/
lemma readV6_groupChars {gs : List UInt16} (hgs : gs.length = groupCount) :
    readV6 (groupChars gs) = some (gs, []) := by
  have hread := readGroups_groupChars .nil hgs.le
  rw [List.append_nil] at hread
  rw [readV6, hread]
  simp only [if_pos hgs]

/-- Groups of which some zeros are left out are read. -/
lemma readV6_gap {before behind : List UInt16} {count : ℕ} (hcount : 1 < count)
    (hlength : before.length + count + behind.length = groupCount) :
    readV6 (groupChars before ++ [':', ':'] ++ groupChars behind)
      = some (before ++ List.replicate count 0 ++ behind, []) := by
  have hbefore : readGroups groupCount true
      (groupChars before ++ ':' :: ':' :: groupChars behind)
        = (before, false, ':' :: ':' :: groupChars behind) :=
    readGroups_groupChars (.gap (point_notMem_groupChars behind)) (by omega)
  have hbehind : readGroups (groupCount - (before.length + 1)) true (groupChars behind)
      = (behind, false, []) := by
    have hread : readGroups (groupCount - (before.length + 1)) true (groupChars behind ++ [])
        = (behind, false, []) := readGroups_groupChars .nil (by omega)
    rwa [List.append_nil] at hread
  have hfew : before.length ≠ groupCount := by omega
  have hfill : groupCount - before.length - behind.length = count := by omega
  rw [List.append_assoc, List.cons_append, List.singleton_append, readV6, hbefore]
  simp [hfew, hbehind, hfill]

/-- A group comes back from its bytes. -/
lemma joinBytes_groupBytes (g : UInt16) : joinBytes (groupBytes g).1 (groupBytes g).2 = g := by
  have hlt : g.toNat < 65536 := g.toNat_lt
  have hhigh : (g.toNat / 256).toUInt8.toNat = g.toNat / 256 :=
    UInt8.toNat_ofNat_of_lt (Nat.div_lt_of_lt_mul hlt)
  have hlow : (g.toNat % 256).toUInt8.toNat = g.toNat % 256 :=
    UInt8.toNat_ofNat_of_lt (Nat.mod_lt _ (by decide))
  rw [joinBytes, groupBytes, hhigh, hlow, Nat.div_add_mod', Nat.toUInt16_eq, UInt16.ofNat_toNat]

/-- A version 4 address behind the gap and the group that marks it gives the last two groups. -/
lemma readV6_marked {a b c d : UInt8} {cs : List Char} (h : readV4 cs = some ((a, b, c, d), [])) :
    readV6 (':' :: ':' :: 'f' :: 'f' :: 'f' :: 'f' :: ':' :: cs)
      = some ([0, 0, 0, 0, 0, 0xFFFF, joinBytes a b, joinBytes c d], []) := by
  have hbefore (cs : List Char) : readGroups groupCount true (':' :: cs) = ([], false, ':' :: cs) :=
    rfl
  have hv4 : readV4 ('f' :: 'f' :: 'f' :: 'f' :: ':' :: cs) = none := rfl
  have hmark : readGroup ('f' :: 'f' :: 'f' :: 'f' :: ':' :: cs) = some (0xFFFF, ':' :: cs) := rfl
  have hlast : readGroups 6 false (':' :: cs) = ([joinBytes a b, joinBytes c d], true, []) := by
    simp [readGroups, behind, h]
  have hbehind : readGroups 7 true ('f' :: 'f' :: 'f' :: 'f' :: ':' :: cs)
      = ([0xFFFF, joinBytes a b, joinBytes c d], true, []) := by
    rw [readGroups, if_pos rfl, hv4, hmark]
    simp [hlast]
  rw [readV6, hbefore]
  simp [groupCount, hbehind]

/-- A version 4 address that is mapped into version 6 is read from its own text behind a gap. -/
lemma readV6_mapped (x y : UInt16) :
    readV6 (v6Chars [0, 0, 0, 0, 0, 0xFFFF, x, y]) = some ([0, 0, 0, 0, 0, 0xFFFF, x, y], []) := by
  have hread := readV6_marked (readV4_v4Chars_self (groupBytes x).1 (groupBytes x).2
    (groupBytes y).1 (groupBytes y).2)
  rwa [joinBytes_groupBytes, joinBytes_groupBytes] at hread

/-- The groups of a version 6 address are read from its text. -/
lemma readV6_v6Chars {gs : List UInt16} (hgs : gs.length = groupCount) :
    readV6 (v6Chars gs) = some (gs, []) := by
  unfold v6Chars
  split
  · exact readV6_mapped _ _
  · dsimp only
    split_ifs with hcount
    · have hsplit := split_longestRun gs
      have hlength := congrArg List.length hsplit
      rw [List.length_append, List.length_append, List.length_replicate, hgs] at hlength
      rw [readV6_gap hcount hlength, hsplit]
    · exact readV6_groupChars hgs

/-- The text of a version 6 address is none of version 4. -/
lemma readV4_v6Chars (gs : List UInt16) : readV4 (v6Chars gs) = none := by
  unfold v6Chars
  split
  · rfl
  · refine readV4_eq_none ?_
    dsimp only
    split_ifs
    · simp [point_notMem_groupChars]
    · exact point_notMem_groupChars gs

/-- Every address is read from its text. -/
theorem ofText?_text (address : IpAddress) : ofText? address.text = some address := by
  cases address with
  | v4 a b c d =>
    simp [ofText?, text, readV4_v4Chars_self]
  | v6 groups =>
    have hlength : groups.toList.length = groupCount := groups.length_toList
    simp only [ofText?, text, String.toList_ofList, readV4_v6Chars, readV6_v6Chars hlength,
      ofGroups?, List.isEmpty_nil, if_true]
    exact dif_pos hlength

/-- An address is read from the value that it is written as. -/
lemma reads_decoder {depth : ℕ} (address : IpAddress) :
    Json.Reads (decoder depth) address.toJson address := by
  refine (Json.reads_textAs _ _).check ?_
  rw [ofText?_text]

end ChainView.IpAddress
