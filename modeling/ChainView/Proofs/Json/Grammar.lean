import Mathlib.Data.List.DropRight
import ChainView.Proofs.Json.Spelling
import ChainView.Proofs.Json.Values

/-!
# Values are read back from all their texts

A value has more texts than the one that is written for it: separators may stand between any two
tokens, and the characters of its strings may be spelled in other ways.  `Value.HasText` says which
texts these are, as the grammar of JSON does, but with a list or an object as the list of its items
or members, each with its text.

The reader stops right behind a value, and whoever goes on from there skips the separators in front
of the next token first.  So the separators behind a value are not part of what is read for it.
`ReadsText` leaves them where they are, and the loops over items and members pass them
(`readItems_blank`, `readMembers_blank`).  By induction on the text, an exact value is read from
each of its texts with its keys sorted, wherever its nesting is allowed (`value_of_hasText`).
-/

namespace ChainView.Json

/-! ## The grammar -/

/-- There are only separators. -/
def Blank (bs : Bytes) : Prop :=
  ∀ b ∈ bs, isSpace b = true

/-- The texts of a key: a string that spells it, with separators before and behind. -/
inductive KeyText (key : String) : Bytes → Prop
  /-- The string between the separators. -/
  | string {before body behind : Bytes} (hbefore : Blank before) (h : Spelled key.toList body)
      (hbehind : Blank behind) :
      KeyText key (before ++ Ascii.quote :: (body ++ Ascii.quote :: behind))

/-- A member of an object with the texts of its key and of its value. -/
structure MemberText where
  /-- The key. -/
  key : String
  /-- The value. -/
  value : Value
  /-- The text of the key. -/
  keyText : Bytes
  /-- The text of the value. -/
  valueText : Bytes

namespace MemberText

/-- The member. -/
def member (m : MemberText) : String × Value := (m.key, m.value)

/-- The text of the member. -/
def text (m : MemberText) : Bytes := m.keyText ++ Ascii.colon :: m.valueText

end MemberText

/-- The texts of a value, with separators before and behind.  An integer has one text but for these;
`-0`, `1.0` and `1e2` are texts of other numbers. -/
inductive Value.HasText : Value → Bytes → Prop
  /-- The word for nothing. -/
  | null : HasText .null writeNull
  /-- The word of a truth value. -/
  | bool (b : Bool) : HasText (.bool b) (writeBool b)
  /-- An integer in decimal. -/
  | integer (n : Integer) : HasText (.integer n) (writeInt n.toInt)
  /-- A string that spells the text. -/
  | string {s : String} {body : Bytes} (h : Spelled s.toList body) :
      HasText (.string s) (Ascii.quote :: (body ++ [Ascii.quote]))
  /-- The texts of the items in brackets. -/
  | array {blank : Bytes} {items : List (Value × Bytes)} (hblank : Blank blank)
      (h : ∀ i ∈ items, HasText i.1 i.2) :
      HasText (.array (items.map Prod.fst))
        (Ascii.openBracket :: (blank ++ (separate (items.map Prod.snd) ++ [Ascii.closeBracket])))
  /-- The texts of the members in braces. -/
  | object {blank : Bytes} {members : List MemberText} (hblank : Blank blank)
      (hkeys : ∀ m ∈ members, KeyText m.key m.keyText)
      (hvalues : ∀ m ∈ members, HasText m.value m.valueText) :
      HasText (.object (members.map MemberText.member))
        (Ascii.openBrace ::
          (blank ++ (separate (members.map MemberText.text) ++ [Ascii.closeBrace])))
  /-- A text of the value behind a separator. -/
  | before {v : Value} {b : UInt8} {text : Bytes} (hb : isSpace b = true) (h : HasText v text) :
      HasText v (b :: text)
  /-- A text of the value before a separator. -/
  | behind {v : Value} {b : UInt8} {text : Bytes} (hb : isSpace b = true) (h : HasText v text) :
      HasText v (text ++ [b])

/-! ## Separators -/

/-- There are none. -/
lemma blank_nil : Blank [] :=
  List.forall_mem_nil _

/-- Separators are skipped. -/
lemma skipSpace_blank {blank : Bytes} (h : Blank blank) (bs : Bytes) :
    skipSpace (blank ++ bs) = skipSpace bs :=
  List.dropWhile_append_of_pos h

/-- Separators are skipped all at once. -/
lemma skipSpace_skipSpace (bs : Bytes) : skipSpace (skipSpace bs) = skipSpace bs :=
  List.dropWhile_idempotent isSpace bs

/-- A separator does not go on with a number. -/
lemma continuesNumber_of_isSpace {b : UInt8} (h : isSpace b = true) :
    continuesNumber b = false := by
  simp only [isSpace, Bool.or_eq_true, beq_iff_eq] at h
  rcases h with ((rfl | rfl) | rfl) | rfl <;> decide

section Blank

variable {blank : Bytes} (h : Blank blank) (bs : Bytes)
include h

/-- Separators in front of a value are skipped. -/
lemma value_blank (depth : Nat) : value depth (blank ++ bs) = value depth bs := by
  cases depth <;> simp only [value, readValue, skipSpace_blank h]

/-- Separators in front of the next item of a list are skipped. -/
lemma nextItem_blank (first : Bool) : nextItem first (blank ++ bs) = nextItem first bs := by
  simp only [nextItem, skipSpace_blank h]

/-- Separators in front of the next key of an object are skipped. -/
lemma nextKey_blank (first : Bool) : nextKey first (blank ++ bs) = nextKey first bs := by
  simp only [nextKey, skipSpace_blank h]

/-- Separators in front of a colon are skipped. -/
lemma passColon_blank : passColon (blank ++ bs) = passColon bs := by
  simp only [passColon, skipSpace_blank h]

/-- The loop over the items of a list passes separators. -/
lemma readItems_blank {α : Type} (item : Reader α) (rounds : Nat) (first : Bool) (read : List α) :
    readItems item rounds first read (blank ++ bs) = readItems item rounds first read bs := by
  cases rounds with
  | zero => rfl
  | succ rounds => simp only [readItems, nextItem_blank h]

/-- The loop over the members of an object passes separators. -/
lemma readMembers_blank (item : Reader Value) (rounds : Nat) (first : Bool)
    (read : List (String × Value)) :
    readMembers item rounds first read (blank ++ bs) = readMembers item rounds first read bs := by
  cases rounds with
  | zero => rfl
  | succ rounds => simp only [readMembers, nextKey_blank h]

end Blank

/-! ## Texts -/

/-- The reader reads a text as `a` and stops behind it, or before separators that end it, whatever
follows, as long as it does not go on with a number. -/
def ReadsText {α : Type} (reader : Reader α) (text : Bytes) (a : α) : Prop :=
  ∃ behind, Blank behind ∧ ∀ rest, EndsNumber rest → reader (text ++ rest) = .ok (a, behind ++ rest)

/-- What is written for a value is one of the texts from which it is read. -/
lemma Reads.readsText {α : Type} {reader : Reader α} {v : Value} {a : α} (h : Reads reader v a) :
    ReadsText reader v.write a :=
  ⟨[], blank_nil, h⟩

/-- The separators that end a text may stand behind it as well. -/
lemma ReadsText.behind {α : Type} {reader : Reader α} {text : Bytes} {a : α} {b : UInt8}
    (h : ReadsText reader text a) (hb : isSpace b = true) : ReadsText reader (text ++ [b]) a := by
  obtain ⟨behind, hbehind, hread⟩ := h
  have hblank : Blank (behind ++ [b]) :=
    List.forall_mem_append.mpr ⟨hbehind, List.forall_mem_singleton.mpr hb⟩
  refine ⟨behind ++ [b], hblank, fun rest _ => ?_⟩
  rw [List.append_assoc, List.singleton_append, hread _ (.cons (continuesNumber_of_isSpace hb)),
    List.append_assoc, List.singleton_append]

variable {depth : Nat}

/-- A value is read whether separators stand in front of it or not. -/
lemma ReadsText.before {text : Bytes} {v : Value} {b : UInt8} (h : ReadsText (value depth) text v)
    (hb : isSpace b = true) : ReadsText (value depth) (b :: text) v := by
  obtain ⟨behind, hbehind, hread⟩ := h
  have hblank : Blank [b] := List.forall_mem_singleton.mpr hb
  refine ⟨behind, hbehind, fun rest hrest => ?_⟩
  rw [← hread rest hrest, ← value_blank hblank (text ++ rest) depth]
  rfl

/-- A string is read as the text that it spells. -/
lemma readsText_string {s : String} {body : Bytes} (h : Spelled s.toList body) :
    ReadsText (value depth) (Ascii.quote :: (body ++ [Ascii.quote])) (.string s) := by
  refine ⟨[], blank_nil, fun rest _ => ?_⟩
  have hbody := stringBody_of_spelled h rest
  rw [List.cons_append, List.append_assoc, List.singleton_append]
  cases depth <;> exact readValue_quote _ hbody

/-! ## Lists -/

/-- What is read as a value starts, behind separators, with another byte than the one that ends a
list. -/
lemma exists_skipSpace_of_value {bs rest : Bytes} {v : Value} (h : value depth bs = .ok (v, rest)) :
    ∃ b tail, skipSpace bs = b :: tail ∧ b ≠ Ascii.closeBracket := by
  have hread : ∃ nested, readValue nested bs = .ok (v, rest) := by
    cases depth with
    | zero => exact ⟨_, h⟩
    | succ depth => exact ⟨_, h⟩
  obtain ⟨nested, hread⟩ := hread
  rw [readValue] at hread
  cases hskip : skipSpace bs with
  | nil =>
    rw [hskip] at hread
    cases hread
  | cons b tail =>
    refine ⟨b, tail, rfl, ?_⟩
    rintro rfl
    rw [hskip] at hread
    cases hread

/-- Where a value is read the first item of a list is found. -/
lemma nextItem_of_value {bs rest : Bytes} {v : Value} (h : value depth bs = .ok (v, rest)) :
    nextItem true bs = .ok (true, skipSpace bs) := by
  obtain ⟨b, tail, hskip, hclose⟩ := exists_skipSpace_of_value h
  simp only [nextItem, hskip, if_neg hclose, if_true]

/-- Where a value is read behind a comma a further item of a list is found. -/
lemma nextItem_comma_of_value {bs rest : Bytes} {v : Value} (h : value depth bs = .ok (v, rest)) :
    nextItem false (Ascii.comma :: bs) = .ok (true, skipSpace bs) := by
  obtain ⟨b, tail, hskip, hclose⟩ := exists_skipSpace_of_value h
  have hcomma : skipSpace (Ascii.comma :: bs) = Ascii.comma :: bs := rfl
  have hne : Ascii.comma ≠ Ascii.closeBracket := by decide
  simp only [nextItem, hcomma, hskip, if_neg hclose, if_neg hne, Bool.false_eq_true, if_false,
    if_true]

/-- A value is read where skipping separators leads. -/
lemma value_skipSpace (bs : Bytes) : value depth (skipSpace bs) = value depth bs := by
  cases depth <;> simp only [value, readValue, skipSpace_skipSpace]

/-- A text from which a value is read is taken for an item of a list. -/
lemma ReadsText.takesItem {text : Bytes} {v : Value} (h : ReadsText (value depth) text v) :
    TakesItem (value depth) text v := by
  obtain ⟨behind, hbehind, hread⟩ := h
  intro rest hrest rounds read
  have hitem := hread rest hrest
  have hskip := (value_skipSpace _).trans hitem
  constructor
  · rw [readItems_of_next (nextItem_of_value hitem) hskip, readItems_blank hbehind]
  · rw [readItems_of_next (nextItem_comma_of_value hitem) hskip, readItems_blank hbehind]

/-- A list is read if its items are. -/
lemma readsText_array {items : List (Value × Bytes)} {blank : Bytes} (hblank : Blank blank)
    (hreads : ∀ i ∈ items, ReadsText (value depth) i.2 i.1.sortKeys) :
    ReadsText (value (depth + 1))
      (Ascii.openBracket :: (blank ++ (separate (items.map Prod.snd) ++ [Ascii.closeBracket])))
      (Value.array (items.map Prod.fst)).sortKeys := by
  refine ⟨[], blank_nil, fun rest _ => ?_⟩
  rw [Value.sortKeys, sortItems_eq_map, List.map_map, List.nil_append]
  simp only [List.cons_append, List.append_assoc, List.nil_append]
  refine readValue_openBracket ?_
  rw [readItems_blank hblank]
  exact readItems_separate (fun i hi => (hreads i hi).takesItem)
    (length_lt_rounds Prod.snd items blank Ascii.closeBracket rest) rest

/-! ## Objects -/

/-- A key is read from each of its texts, as the first one of an object and behind a comma, up to
separators that end the text. -/
lemma KeyText.nextKey {key : String} {text : Bytes} (h : KeyText key text) :
    ∃ behind, Blank behind ∧ ∀ rest,
      nextKey true (text ++ rest) = .ok (some key, behind ++ rest) ∧
        nextKey false (Ascii.comma :: (text ++ rest)) = .ok (some key, behind ++ rest) := by
  obtain ⟨hbefore, h, hbehind⟩ := h
  rename_i before body behind
  refine ⟨behind, hbehind, fun rest => ?_⟩
  have hbody := stringBody_of_spelled h (behind ++ rest)
  have hquote (bs : Bytes) : skipSpace (Ascii.quote :: bs) = Ascii.quote :: bs := rfl
  have hcomma (bs : Bytes) : skipSpace (Ascii.comma :: bs) = Ascii.comma :: bs := rfl
  have hquoteClose : Ascii.quote ≠ Ascii.closeBrace := by decide
  have hcommaClose : Ascii.comma ≠ Ascii.closeBrace := by decide
  have hskip : skipSpace (before ++ Ascii.quote :: (body ++ Ascii.quote :: behind) ++ rest)
      = Ascii.quote :: (body ++ Ascii.quote :: (behind ++ rest)) := by
    rw [List.append_assoc, skipSpace_blank hbefore, List.cons_append, hquote, List.append_assoc,
      List.cons_append]
  constructor
  · simp only [Json.nextKey, hskip, if_neg hquoteClose, if_true, hbody]
  · simp only [Json.nextKey, hcomma, hskip, if_neg hcommaClose, Bool.false_eq_true, if_false,
      if_true, hbody]

/-- A text of a member from which its value is read is taken for a member of an object. -/
lemma ReadsText.takesMember {m : MemberText} {v : Value} (hkey : KeyText m.key m.keyText)
    (h : ReadsText (value depth) m.valueText v) :
    TakesMember (value depth) m.text (m.key, v) := by
  obtain ⟨between, hbetween, hnext⟩ := hkey.nextKey
  obtain ⟨behind, hbehind, hread⟩ := h
  intro rest hrest rounds read
  have hitem := hread rest hrest
  have hcolon (next : Bytes) : passColon (between ++ Ascii.colon :: next) = .ok next :=
    (passColon_blank hbetween _).trans (passColon_cons next)
  rw [MemberText.text, List.append_assoc, List.cons_append]
  constructor
  · rw [readMembers_of_next (hnext _).1 (hcolon _) hitem, readMembers_blank hbehind]
  · rw [readMembers_of_next (hnext _).2 (hcolon _) hitem, readMembers_blank hbehind]

/-- An object is read if the values of its members are. -/
lemma readsText_object {members : List MemberText} {blank : Bytes} (hblank : Blank blank)
    (hkeys : ∀ m ∈ members, KeyText m.key m.keyText)
    (hreads : ∀ m ∈ members, ReadsText (value depth) m.valueText m.value.sortKeys) :
    ReadsText (value (depth + 1))
      (Ascii.openBrace :: (blank ++ (separate (members.map MemberText.text) ++ [Ascii.closeBrace])))
      (Value.object (members.map MemberText.member)).sortKeys := by
  refine ⟨[], blank_nil, fun rest _ => ?_⟩
  rw [Value.sortKeys, sortValues_eq_map, List.map_map, List.nil_append]
  simp only [List.cons_append, List.append_assoc, List.nil_append]
  refine readValue_openBrace ?_
  rw [readMembers_blank hblank]
  exact readMembers_separate (fun m hm => (hreads m hm).takesMember (hkeys m hm))
    (length_lt_rounds MemberText.text members blank Ascii.closeBrace rest) rest

/-! ## Values -/

/-- An exact value is read from each of its texts with its keys sorted, as deep as values may be
nested. -/
theorem value_of_hasText {levels : Nat} {v : Value} {text : Bytes} (htext : v.HasText text)
    (hexact : v.Exact levels) (hdepth : levels ≤ depth) :
    ReadsText (value depth) text v.sortKeys := by
  induction htext generalizing levels depth with
  | null => exact (value_write hexact hdepth).readsText
  | bool b => exact (value_write hexact hdepth).readsText
  | integer n => exact (value_write hexact hdepth).readsText
  | string h => exact readsText_string h
  | array hblank _ ih =>
    cases hexact with
    | array hitems =>
      obtain ⟨depth, rfl⟩ := Nat.exists_eq_add_one_of_ne_zero (Nat.ne_zero_of_lt hdepth)
      refine readsText_array hblank fun i hi => ?_
      exact ih i hi (hitems _ (List.mem_map_of_mem hi)) (Nat.le_of_succ_le_succ hdepth)
  | object hblank hkeys _ ih =>
    cases hexact with
    | object hvalues =>
      obtain ⟨depth, rfl⟩ := Nat.exists_eq_add_one_of_ne_zero (Nat.ne_zero_of_lt hdepth)
      refine readsText_object hblank hkeys fun m hm => ?_
      exact ih m hm (hvalues _ (List.mem_map_of_mem hm)) (Nat.le_of_succ_le_succ hdepth)
  | before hb _ ih => exact (ih hexact hdepth).before hb
  | behind hb _ ih => exact (ih hexact hdepth).behind hb

/-- A text that is read up to separators is read as a whole text. -/
lemma readAll_of_readsText {α : Type} {reader : Reader α} {text : Bytes} {a : α}
    (h : ReadsText reader text a) : readAll reader text = .ok a := by
  obtain ⟨behind, hbehind, hread⟩ := h
  have hall := hread [] .nil
  have hskip : skipSpace (behind ++ []) = [] := skipSpace_blank hbehind []
  rw [List.append_nil] at hall
  simp only [readAll, hall, hskip]

/-- An exact value is parsed from each of its texts with its keys sorted, unless it is nested too
deeply. -/
theorem parse_of_hasText {levels : Nat} {v : Value} {text : Bytes} (htext : v.HasText text)
    (hexact : v.Exact levels) (hlevels : levels ≤ nestingLimit) : parse text = .ok v.sortKeys :=
  readAll_of_readsText (value_of_hasText htext hexact hlevels)

/-! ## What is written -/

/-- A member with what is written for it. -/
def MemberText.written (m : String × Value) : MemberText :=
  ⟨m.1, m.2, writeString m.1, m.2.write⟩

/-- What is written for a key is one of its texts. -/
lemma keyText_writeString (key : String) : KeyText key (writeString key) :=
  .string blank_nil (spelled_written key) blank_nil

/-- What is written for an exact value is one of its texts. -/
theorem Value.Exact.hasText_write {levels : Nat} {v : Value} (h : v.Exact levels) :
    v.HasText v.write := by
  induction h with
  | null => exact .null
  | bool b => exact .bool b
  | integer n => exact .integer n
  | string s => exact .string (spelled_written s)
  | @array levels items _ ih =>
    have htext : (Value.array ((items.map fun v => (v, v.write)).map Prod.fst)).HasText _ :=
      .array blank_nil (List.forall_mem_map.mpr ih)
    simp only [List.map_map, Function.comp_def, List.map_id'] at htext
    rw [Value.write, writeItems_eq_separate]
    exact htext
  | @object levels members _ ih =>
    have htext :
        (Value.object ((members.map MemberText.written).map MemberText.member)).HasText _ :=
      .object blank_nil (List.forall_mem_map.mpr fun m _ => keyText_writeString m.1)
        (List.forall_mem_map.mpr ih)
    have hmember : MemberText.member ∘ MemberText.written = id := rfl
    have hwritten : MemberText.text ∘ MemberText.written = writeMember := rfl
    rw [List.map_map, List.map_map, hmember, hwritten, List.map_id] at htext
    rw [Value.write, writeMembers_eq_separate]
    exact htext

end ChainView.Json
