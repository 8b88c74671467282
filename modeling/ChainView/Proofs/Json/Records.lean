import Mathlib.Data.List.Nodup
import Mathlib.Data.List.Pairwise
import ChainView.Json.Record
import ChainView.Proofs.Json.Values

/-!
# Records are read back as written

The decoders of typed values are put together from a few, and so are the statements that they read
what is written: each decoder has one, from those of the decoders it is made of.  For a record it is
about its members.  `Shape.Takes` says that a shape takes a list of members one after the other,
from a record with what stands before them set to one with them set as well.  If a shape takes
members with different keys from the blank record, and they include what is required, then an object
of them is read as the record that they lead to (`Shape.Takes.reads`).

The order of the members makes no difference if the members of the shape are *independent*, so that
any two of them can be set in either order.  Then an object of all members is read in whatever order
they stand, in particular with its keys sorted (`Shape.Describes.reads_of_perm`).
-/

namespace ChainView.Json

variable {α β : Type} {depth : Nat} {v : Value} {a : α}

/-! ## Typed values -/

/-- A text is read, whatever a message would call it. -/
lemma reads_textAs (expected : String) (s : String) :
    Reads (Decoder.textAs expected depth) (.string s) s := by
  intro rest _
  rw [Value.write, writeString_append, ← stringBody_written s rest]
  rfl

/-- A text is read. -/
lemma reads_text (s : String) : Reads (Decoder.text depth) (.string s) s :=
  reads_textAs _ s

/-- An exact value is read as it is, with its keys sorted. -/
lemma reads_any {levels : Nat} (h : v.Exact levels) (hdepth : levels ≤ depth) :
    Reads (Decoder.any depth) v v.sortKeys :=
  value_write h hdepth

/-- An integer is read if it is not too large for the type that is asked for. -/
lemma reads_integer {expected : String} {narrow : Int → Option α} {n : Integer}
    (h : narrow n.toInt = some a) :
    Reads (Decoder.integer expected narrow depth) (.integer n) a := by
  intro rest hrest
  obtain ⟨b, digits, htext, hb⟩ := exists_writeInt n.toInt
  have hnumber := number_writeInt n hrest
  rw [htext, List.cons_append] at hnumber
  rw [Value.write, htext, List.cons_append, Decoder.integer,
    skipSpace_cons (isSpace_of_opensNumber hb)]
  simp only [if_pos hb, hnumber, h]

/-- A signed word comes back from its value. -/
lemma signed32?_toInt (n : Int32) : Decoder.signed32? n.toInt = some n := by
  have hrange : -2147483648 ≤ n.toInt ∧ n.toInt < 2147483648 := ⟨n.le_toInt, n.toInt_lt⟩
  rw [Decoder.signed32?, if_pos hrange, Int32.ofInt_toInt]

/-- A signed word is read. -/
lemma reads_int32 (n : Int32) : Reads (Decoder.int32 depth) (.integer (.ofInt32 n)) n :=
  reads_integer (signed32?_toInt n)

/-- An unsigned word comes back from its value. -/
lemma word64?_toInt (n : UInt64) : Decoder.word64? (Integer.ofUInt64 n).toInt = some n := by
  have hrange : (0 : Int) ≤ n.toNat ∧ (n.toNat : Int) < 18446744073709551616 := by
    have hlt := n.toNat_lt
    omega
  rw [Integer.toInt_ofUInt64, Decoder.word64?, if_pos hrange, Int.toNat_natCast, UInt64.ofNat_toNat]

/-- An unsigned word is read. -/
lemma reads_word64 (n : UInt64) : Reads (Decoder.word64 depth) (.word n) n :=
  reads_integer (word64?_toInt n)

/-- A size is read. -/
lemma reads_size (n : UInt64) : Reads (Decoder.size depth) (.word n) n :=
  reads_integer (word64?_toInt n)

/-- An unsigned 16-bit word is read. -/
lemma reads_word16 (n : UInt16) :
    Reads (Decoder.word16 depth) (.word (UInt64.ofNat n.toNat)) n := by
  refine reads_integer ?_
  have hlt : n.toNat < 65536 := n.toNat_lt
  have hwide : (UInt64.ofNat n.toNat).toNat = n.toNat :=
    UInt64.toNat_ofNat_of_lt (hlt.trans (by decide))
  have hrange : (0 : Int) ≤ n.toNat ∧ (n.toNat : Int) < 65536 := by omega
  rw [Integer.toInt_ofUInt64, hwide, Decoder.word16?, if_pos hrange, Int.toNat_natCast,
    UInt16.ofNat_toNat]

section Combinators

variable {d : Decoder α}

/-- The items of a list are read, if each of them is. -/
lemma reads_list {ι : Type} {items : List ι} {written : ι → Value} {result : ι → α} {levels : Nat}
    (hexact : ∀ i ∈ items, (written i).Exact levels)
    (hreads : ∀ i ∈ items, Reads (d depth) (written i) (result i)) :
    Reads (Decoder.list d (depth + 1)) (.array (items.map written)) (items.map result) := by
  intro rest _
  have hopen (bs : Bytes) : Decoder.list d (depth + 1) (Ascii.openBracket :: bs)
      = readItems (d depth) (bs.length + 1) true [] bs := rfl
  rw [Value.write, List.append_assoc, List.cons_append, List.singleton_append, hopen]
  exact readItems_write written hexact hreads rest

/-- What is read is turned into something else. -/
lemma Reads.map (h : Reads (d depth) v a) (f : α → β) : Reads (d.map f depth) v (f a) := by
  intro rest hrest
  rw [Decoder.map, h rest hrest]

/-- What is read passes a check. -/
lemma Reads.check (h : Reads (d depth) v a) {f : α → Except String β} {b : β} (hf : f a = .ok b) :
    Reads (d.check f depth) v b := by
  intro rest hrest
  rw [Decoder.check, h rest hrest]
  simp only [hf]

/-- A truth value is read. -/
lemma reads_bool (b : Bool) : Reads (Decoder.bool depth) (.bool b) b := by
  intro rest _
  cases b <;> rfl

/-- Null is read as no value. -/
lemma reads_optional_null : Reads (d.optional depth) .null none := fun _ _ => rfl

/-- A value that is not null is read as the value that is there. -/
lemma Reads.optional (h : Reads (d depth) v a) {levels : Nat} (hexact : v.Exact levels)
    (hnull : v ≠ .null) : Reads (d.optional depth) v (some a) := by
  intro rest hrest
  obtain ⟨b, hb⟩ := hexact.exists_opensWith
  obtain ⟨tail, htext⟩ := hb.text
  have hn : b ≠ Ascii.byte 'n' := fun hn => hnull (hb.eq_null hn)
  have hsome := h.map some rest hrest
  rw [htext, List.cons_append] at hsome ⊢
  rw [Decoder.optional, skipSpace_cons hb.not_space]
  simp only [if_neg hn, hsome]

end Combinators

/-! ## Records -/

namespace Shape

variable {σ : Type} {shape : Shape σ} {members : List (String × Value)} {r s t : σ}

/-- A shape takes members one after the other: it knows the key of each and reads its value, which
is set in the record. -/
inductive Takes (shape : Shape σ) (depth : Nat) : List (String × Value) → σ → σ → Prop
  /-- There are none. -/
  | nil (r : σ) : Takes shape depth [] r r
  /-- The first is taken, and then the others. -/
  | cons {key : String} {v : Value} {members : List (String × Value)} {m : Member σ} {set : σ → σ}
      {r s : σ} (hfind : shape.find? key = some m) (hread : Reads (m.read depth) v set)
      (h : Takes shape depth members (set r) s) : Takes shape depth ((key, v) :: members) r s

/-- A shape takes a single member. -/
lemma Takes.singleton {key : String} {m : Member σ} {set : σ → σ}
    (hfind : shape.find? key = some m) (hread : Reads (m.read depth) v set) (hset : set r = s) :
    shape.Takes depth [(key, v)] r s :=
  .cons hfind hread (hset ▸ .nil _)

/-- A shape takes two lists of members in a row. -/
lemma Takes.append {others : List (String × Value)} (h : shape.Takes depth members r s)
    (hothers : shape.Takes depth others s t) : shape.Takes depth (members ++ others) r t := by
  induction h with
  | nil r => exact hothers
  | cons hfind hread _ ih => exact .cons hfind hread (ih hothers)

/-- The loop over the members of a record goes on behind a member that it has read. -/
lemma readObject_of_next {key : String} {m : Member σ} {set : σ → σ} {first : Bool}
    {bs next rest : Bytes} {seen : List String} (hfind : shape.find? key = some m)
    (hseen : key ∉ seen) (hnext : nextKey first bs = .ok (some key, Ascii.colon :: next))
    (hread : m.read depth next = .ok (set, rest)) (rounds : Nat) (r : σ) :
    shape.readObject depth (rounds + 1) first seen r bs
      = shape.readObject depth rounds false (key :: seen) (set r) rest := by
  have hcontains : seen.contains key = false := by simpa using hseen
  rw [readObject, hnext]
  simp only [hfind, hcontains, passColon_cons, hread]
  rfl

/-- Before a closing brace the loop over the members of a record ends, if none is missing. -/
lemma readObject_close {seen : List String} (hmissing : shape.missing? seen = none) (rounds : Nat)
    (first : Bool) (r : σ) (rest : Bytes) :
    shape.readObject depth (rounds + 1) first seen r (Ascii.closeBrace :: rest)
      = .ok (r, rest) := by
  rw [readObject, nextKey_close]
  simp only [hmissing]
  rfl

/-- The loop over the members of a record reads those that stand behind commas. -/
lemma Takes.readObject_comma_write (h : shape.Takes depth members r s) {seen : List String}
    (hnodup : (members.map Prod.fst ++ seen).Nodup)
    (hmissing : shape.missing? ((members.map Prod.fst).reverse ++ seen) = none)
    {rounds : Nat} (hrounds : members.length < rounds) (rest : Bytes) :
    shape.readObject depth rounds false seen r
        (members.flatMap (fun m => Ascii.comma :: writeMember m) ++ Ascii.closeBrace :: rest)
      = .ok (s, rest) := by
  -- the keys still due and those seen are all different, and together they leave none missing
  induction h generalizing seen rounds with
  | nil r =>
    obtain ⟨rounds, rfl⟩ := Nat.exists_eq_add_one_of_ne_zero (Nat.ne_zero_of_lt hrounds)
    exact readObject_close hmissing rounds false r rest
  | @cons key v members m set r s hfind hread _ ih =>
    obtain ⟨rounds, rfl⟩ := Nat.exists_eq_add_one_of_ne_zero (Nat.ne_zero_of_lt hrounds)
    rw [List.map_cons, List.cons_append, List.nodup_cons, List.mem_append, not_or] at hnodup
    obtain ⟨⟨hkey, hseen⟩, hnodup⟩ := hnodup
    have hnodup : (members.map Prod.fst ++ key :: seen).Nodup :=
      List.nodup_middle.mpr (List.nodup_cons.mpr ⟨by simp [hkey, hseen], hnodup⟩)
    rw [List.map_cons, List.reverse_cons, List.append_assoc, List.singleton_append] at hmissing
    have hnext := nextKey_comma_write key
    have hset := hread _ (endsNumber_commas writeMember members continuesNumber_closeBrace rest)
    rw [List.flatMap_cons, List.cons_append, List.cons_append, List.append_assoc, writeMember,
      List.append_assoc, List.cons_append, readObject_of_next hfind hseen (hnext _) hset,
      ih hnodup hmissing (Nat.lt_of_succ_lt_succ hrounds)]

/-- An object is read as a record, if the shape takes its members from the blank record to it, no
key stands there twice, and no required member is missing. -/
theorem Takes.reads (h : shape.Takes depth members shape.blank s)
    (hnodup : (members.map Prod.fst).Nodup)
    (hmissing : shape.missing? (members.map Prod.fst).reverse = none) :
    Reads (shape.decoder (depth + 1)) (.object members) s := by
  intro rest _
  have hopen (bs : Bytes) : shape.decoder (depth + 1) (Ascii.openBrace :: bs)
      = shape.readObject depth (bs.length + 1) true [] shape.blank bs := rfl
  rw [Value.write, List.append_assoc, List.cons_append, List.singleton_append, hopen]
  cases h with
  | nil => exact readObject_close hmissing _ true _ rest
  | @cons key v members m set r s hfind hread h =>
    have hset := hread _ (endsNumber_commas writeMember members continuesNumber_closeBrace rest)
    have hrounds := length_lt_length_members (key, v) members rest
    have hnodup : (members.map Prod.fst ++ [key]).Nodup := List.nodup_append_comm.mp hnodup
    rw [List.map_cons, List.reverse_cons] at hmissing
    rw [writeMembers_cons_append] at hrounds ⊢
    rw [readObject_of_next hfind List.not_mem_nil (nextKey_write key _) hset]
    exact h.readObject_comma_write hnodup hmissing hrounds rest

end Shape

/-! ## Members in any order -/

section Order

variable {σ : Type} {shape : Shape σ} {members others : List (String × Value)} {r s : σ}

/-- A member is read as a function that sets it, from some text. -/
def Member.Sets (m : Member σ) (set : σ → σ) : Prop :=
  ∃ depth bs rest, m.read depth bs = .ok (set, rest)

/-- Two members may be set in either order. -/
def Member.Commutes (m n : Member σ) : Prop :=
  ∀ f g, m.Sets f → n.Sets g → ∀ r, f (g r) = g (f r)

/-- What is read as a value for a member sets it. -/
lemma Reads.sets {m : Member σ} {set : σ → σ} (h : Reads (m.read depth) v set) : m.Sets set :=
  ⟨depth, _, _, h [] .nil⟩

/-- A member is set by putting a value into the record. -/
lemma Member.Sets.exists_eq {name : String} {required : Bool} {d : Decoder α} {put : σ → α → σ}
    {set : σ → σ} (h : Member.Sets ⟨name, required, d.map fun a r => put r a⟩ set) :
    ∃ a, set = fun r => put r a := by
  obtain ⟨depth, bs, rest, hread⟩ := h
  unfold Decoder.map at hread
  cases hd : d depth bs with
  | error fault => simp [hd] at hread
  | ok result =>
    simp only [hd, Except.ok.injEq, Prod.mk.injEq] at hread
    exact ⟨result.1, hread.1.symm⟩

/-- Two members may be set in either order if their values may be put in in either order. -/
lemma Member.commutes_of_put {name other : String} {required needed : Bool} {d : Decoder α}
    {e : Decoder β} {put : σ → α → σ} {place : σ → β → σ}
    (h : ∀ r a b, put (place r b) a = place (put r a) b) :
    Member.Commutes ⟨name, required, d.map fun a r => put r a⟩
      ⟨other, needed, e.map fun b r => place r b⟩ := by
  intro f g hf hg r
  obtain ⟨a, rfl⟩ := hf.exists_eq
  obtain ⟨b, rfl⟩ := hg.exists_eq
  exact h r a b

namespace Shape

/-- The members of a shape are independent: they have different names, and any two of them may be
set in either order. -/
structure Independent (shape : Shape σ) : Prop where
  /-- The names differ. -/
  nodup : (shape.members.map Member.name).Nodup
  /-- The order in which two members are set makes no difference. -/
  commutes : shape.members.Pairwise Member.Commutes

/-- A member is found under its name. -/
lemma name_of_find?_eq_some {key : String} {m : Member σ} (h : shape.find? key = some m) :
    m.name = key := by
  have hname := List.find?_some h
  exact beq_iff_eq.mp hname

/-- Members that are found under different keys may be set in either order. -/
lemma Independent.set_comm (hs : shape.Independent) {key other : String} (hne : key ≠ other)
    {m n : Member σ} (hm : shape.find? key = some m) (hn : shape.find? other = some n)
    {f g : σ → σ} (hf : m.Sets f) (hg : n.Sets g) (r : σ) : f (g r) = g (f r) := by
  have hmn : m ≠ n := by
    rintro rfl
    exact hne ((name_of_find?_eq_some hm).symm.trans (name_of_find?_eq_some hn))
  have : Std.Symm (@Member.Commutes σ) :=
    ⟨fun m n h f g hf hg r => (h g f hg hf r).symm⟩
  exact hs.commutes.forall (List.mem_of_find?_eq_some hm) (List.mem_of_find?_eq_some hn) hmn
    f g hf hg r

/-- A shape with independent members takes members with different keys in any order. -/
lemma Takes.perm (hs : shape.Independent) (hperm : members.Perm others)
    (hnodup : (members.map Prod.fst).Nodup) (h : shape.Takes depth members r s) :
    shape.Takes depth others r s := by
  induction hperm generalizing r with
  | nil => exact h
  | cons m _ ih =>
    cases h with
    | cons hfind hread h => exact .cons hfind hread (ih (List.nodup_cons.mp hnodup).2 h)
  | swap m n rest =>
    cases h with
    | @cons key _ _ _ _ _ _ hfind hread h =>
      cases h with
      | @cons other _ _ _ _ _ _ hfind' hread' h =>
        have hne : other ≠ key := by
          rintro rfl
          exact (List.nodup_cons.mp hnodup).1 List.mem_cons_self
        rw [hs.set_comm hne hfind' hfind hread'.sets hread.sets] at h
        exact .cons hfind' hread' (.cons hfind hread h)
  | trans hfirst _ ih ih' =>
    exact ih' ((hfirst.map Prod.fst).nodup_iff.mp hnodup) (ih hnodup h)

/-- If all members of a shape were seen, none is missing. -/
lemma missing?_eq_none {seen : List String} (h : ∀ m ∈ shape.members, m.name ∈ seen) :
    shape.missing? seen = none := by
  refine List.find?_eq_none.mpr fun m hm => ?_
  simp [h m hm]

/-- A shape describes members as those of a record: all its members are there, in its order, they
lead from the blank record to it, and there is nothing to sort in their values. -/
structure Describes (shape : Shape σ) (members : List (String × Value)) (s : σ) : Prop where
  /-- The keys are the names of the members of the shape. -/
  keys : members.map Prod.fst = shape.members.map Member.name
  /-- The members lead to the record. -/
  takes : ∀ depth, shape.Takes depth members shape.blank s
  /-- The keys of the values are sorted. -/
  plain : ∀ m ∈ members, m.2.sortKeys = m.2

/-- An object of the members of a record, in any order, is read as the record. -/
theorem Describes.reads_of_perm (h : shape.Describes members s) (hs : shape.Independent)
    (hperm : others.Perm members) : Reads (shape.decoder (depth + 1)) (.object others) s := by
  have hnodup : (members.map Prod.fst).Nodup := h.keys ▸ hs.nodup
  have hkeys := hperm.map Prod.fst
  refine ((h.takes depth).perm hs hperm.symm hnodup).reads (hkeys.nodup_iff.mpr hnodup) ?_
  refine missing?_eq_none fun m hm => ?_
  rw [List.mem_reverse, hkeys.mem_iff, h.keys]
  exact List.mem_map_of_mem hm

/-- A value fits a record: it is an object of members that the shape describes as those of the
record. -/
def Fits (shape : Shape σ) (v : Value) (s : σ) : Prop :=
  ∃ members, v = .object members ∧ shape.Describes members s

namespace Fits

variable {v : Value} (h : shape.Fits v s) (hs : shape.Independent)
include h hs

/-- A value that fits a record is read as the record. -/
lemma reads : Reads (shape.decoder (depth + 1)) v s := by
  obtain ⟨members, rfl, hmembers⟩ := h
  exact hmembers.reads_of_perm hs (.refl members)

/-- So it is with its keys sorted. -/
lemma reads_sortKeys : Reads (shape.decoder (depth + 1)) v.sortKeys s := by
  obtain ⟨members, rfl, hmembers⟩ := h
  rw [Value.sortKeys, sortValues_of_forall hmembers.plain]
  exact hmembers.reads_of_perm hs (orderMembers_perm (hmembers.keys ▸ hs.nodup))

end Fits

/-- Records are read back from what is written for them by `toJson`: from the text as it is, from
the text with its keys sorted, and from a text with the members in any other order. -/
structure ReadsBack (shape : Shape σ) (toJson : σ → Value) : Prop where
  /-- The text as it is. -/
  written : ∀ s, decode shape.decoder (toJson s).write = .ok s
  /-- The text with its keys sorted. -/
  sorted : ∀ s, decode shape.decoder (toJson s).sortKeys.write = .ok s
  /-- A text with the members in another order. -/
  reordered : ∀ s members others, toJson s = .object members → others.Perm members →
    decode shape.decoder (Value.object others).write = .ok s

/-- If all that is written fits what it is written for, and the members are independent, records are
read back. -/
theorem readsBack_of_fits {toJson : σ → Value} (hs : shape.Independent)
    (h : ∀ s, shape.Fits (toJson s) s) : shape.ReadsBack toJson where
  written s := readAll_write ((h s).reads hs)
  sorted s := readAll_write ((h s).reads_sortKeys hs)
  reordered s members others hmembers hperm := by
    obtain ⟨described, hwritten, hdescribed⟩ := h s
    obtain rfl : described = members := by
      rw [hwritten] at hmembers
      exact Value.object.inj hmembers
    exact readAll_write (hdescribed.reads_of_perm hs hperm)

end Shape

end Order

end ChainView.Json
