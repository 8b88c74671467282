import ChainView.Json.Reader
import ChainView.Proofs.Json.Keys
import ChainView.Proofs.Json.Numbers
import ChainView.Proofs.Json.Strings

/-!
# Values are read back as written

`Reads reader v a` says that a reader reads what is written for the value `v` as `a`, and stops
behind it whatever follows, as long as that does not go on with a number.  Lists and objects are
read by loops over their items and members.  Such a loop reads texts with commas between them if it
takes each of the texts (`readItems_separate`, `readMembers_separate`), because every text but the
first has a comma in front, so that there are rounds enough.

Values are *exact* if they have no numbers but integers.  By induction on the nesting, an exact
value is read back with its keys sorted wherever the nesting is allowed (`value_write`).
-/

namespace ChainView.Json

/-- A byte that does not open a number is another one than a byte that does. -/
lemma ne_of_opensNumber {b c : UInt8} (hb : b = Ascii.minus ∨ Ascii.isDigit b = true)
    (hc : ¬ (c = Ascii.minus ∨ Ascii.isDigit c = true)) : b ≠ c :=
  fun h => hc (h ▸ hb)

/-- A byte that opens a number separates nothing. -/
lemma isSpace_of_opensNumber {b : UInt8} (hb : b = Ascii.minus ∨ Ascii.isDigit b = true) :
    isSpace b = false := by
  simp [isSpace, ne_of_opensNumber hb (c := 0x20) (by decide),
    ne_of_opensNumber hb (c := 0x0A) (by decide), ne_of_opensNumber hb (c := 0x09) (by decide),
    ne_of_opensNumber hb (c := 0x0D) (by decide)]

namespace Value

/-- All numbers in the value are integers, and lists and objects are nested in it up to a number of
levels. -/
inductive Exact : (levels : Nat) → Value → Prop
  /-- Null. -/
  | null {levels : Nat} : Exact levels .null
  /-- A truth value. -/
  | bool {levels : Nat} (b : Bool) : Exact levels (.bool b)
  /-- An integer. -/
  | integer {levels : Nat} (n : Integer) : Exact levels (.integer n)
  /-- A text. -/
  | string {levels : Nat} (s : String) : Exact levels (.string s)
  /-- A list whose items are nested one level less. -/
  | array {levels : Nat} {items : List Value} (h : ∀ v ∈ items, Exact levels v) :
      Exact (levels + 1) (.array items)
  /-- An object whose members are nested one level less. -/
  | object {levels : Nat} {members : List (String × Value)} (h : ∀ m ∈ members, Exact levels m.2) :
      Exact (levels + 1) (.object members)

/-- An exact value stays exact when its keys are sorted. -/
lemma Exact.sortKeys {levels : Nat} {v : Value} (h : v.Exact levels) : v.sortKeys.Exact levels := by
  induction h with
  | null => exact .null
  | bool b => exact .bool b
  | integer n => exact .integer n
  | string s => exact .string s
  | array h ih =>
    refine .array fun v hv => ?_
    rw [sortItems_eq_map] at hv
    obtain ⟨w, hw, rfl⟩ := List.mem_map.mp hv
    exact ih w hw
  | object h ih =>
    refine .object (forall_mem_orderMembers fun m hm => ?_)
    rw [sortValues_eq_map] at hm
    obtain ⟨w, hw, rfl⟩ := List.mem_map.mp hm
    exact ih w hw

/-- A byte opens the text of a value: no separator, no end of a list, and the letter that null
starts with only if the value is null. -/
structure OpensWith (v : Value) (b : UInt8) : Prop where
  /-- It is the first byte. -/
  text : ∃ rest, v.write = b :: rest
  /-- It separates nothing. -/
  not_space : isSpace b = false
  /-- It ends no list. -/
  not_close : b ≠ Ascii.closeBracket
  /-- Only null starts as null does. -/
  eq_null : b = Ascii.byte 'n' → v = .null

/-- What is written for an exact value is opened by a byte. -/
lemma Exact.exists_opensWith {levels : Nat} {v : Value} (h : v.Exact levels) :
    ∃ b, v.OpensWith b := by
  cases h with
  | null => exact ⟨_, ⟨_, rfl⟩, by decide, by decide, fun _ => rfl⟩
  | bool b =>
    cases b with
    | false => exact ⟨_, ⟨_, rfl⟩, by decide, by decide, fun h => absurd h (by decide)⟩
    | true => exact ⟨_, ⟨_, rfl⟩, by decide, by decide, fun h => absurd h (by decide)⟩
  | integer n =>
    obtain ⟨b, digits, htext, hb⟩ := exists_writeInt n.toInt
    exact ⟨b, ⟨digits, htext⟩, isSpace_of_opensNumber hb, ne_of_opensNumber hb (by decide),
      fun h => absurd h (ne_of_opensNumber hb (by decide))⟩
  | string s => exact ⟨_, ⟨_, rfl⟩, by decide, by decide, fun h => absurd h (by decide)⟩
  | array _ => exact ⟨_, ⟨_, rfl⟩, by decide, by decide, fun h => absurd h (by decide)⟩
  | object _ => exact ⟨_, ⟨_, rfl⟩, by decide, by decide, fun h => absurd h (by decide)⟩

end Value

/-- The reader reads what is written for a value as `a` and stops behind it, whatever follows, as
long as it does not go on with a number. -/
def Reads {α : Type} (reader : Reader α) (v : Value) (a : α) : Prop :=
  ∀ rest, EndsNumber rest → reader (v.write ++ rest) = .ok (a, rest)

/-- Nothing is skipped in front of a byte that separates nothing. -/
lemma skipSpace_cons {b : UInt8} (h : isSpace b = false) (rest : Bytes) :
    skipSpace (b :: rest) = b :: rest := by
  rw [skipSpace, List.dropWhile_cons, h]
  rfl

/-! ## Texts behind commas -/

/-- The end of a list does not go on with a number. -/
lemma continuesNumber_closeBracket : continuesNumber Ascii.closeBracket = false := by decide

/-- The end of an object does not go on with a number. -/
lemma continuesNumber_closeBrace : continuesNumber Ascii.closeBrace = false := by decide

section Commas

variable {ι : Type} (text : ι → Bytes) (items : List ι)

/-- What starts with a comma, or with the byte that closes a list or an object, does not go on with
a number. -/
lemma endsNumber_commas {close : UInt8} (hclose : continuesNumber close = false) (rest : Bytes) :
    EndsNumber (items.flatMap (fun i => Ascii.comma :: text i) ++ close :: rest) := by
  cases items with
  | nil => exact .cons hclose
  | cons i items => exact .cons (by decide)

/-- There are fewer texts behind commas than bytes up to the closing one. -/
lemma length_lt_length_commas (first : Bytes) (close : UInt8) (rest : Bytes) :
    items.length <
      (first ++ (items.flatMap (fun i => Ascii.comma :: text i) ++ close :: rest)).length := by
  have hle : items.length ≤ (items.flatMap fun i => Ascii.comma :: text i).length := by
    induction items with
    | nil => exact Nat.le_refl 0
    | cons i items ih =>
      rw [List.flatMap_cons, List.length_append, List.length_cons, List.length_cons]
      omega
  rw [List.length_append, List.length_append, List.length_cons]
  omega

end Commas

/-- The texts with a comma between any two of them. -/
def separate : List Bytes → Bytes
  | [] => []
  | text :: texts => text ++ texts.flatMap fun t => Ascii.comma :: t

/-- For texts with commas between them there are rounds enough. -/
lemma length_lt_rounds {ι : Type} (text : ι → Bytes) (items : List ι) (before : Bytes)
    (close : UInt8) (rest : Bytes) :
    items.length < (before ++ (separate (items.map text) ++ close :: rest)).length + 1 := by
  cases items with
  | nil => exact Nat.succ_pos _
  | cons i items =>
    rw [List.map_cons, separate, List.flatMap_map, List.append_assoc, ← List.append_assoc before]
    exact Nat.succ_lt_succ (length_lt_length_commas text items (before ++ text i) close rest)

/-! ## Lists -/

/-- Behind an opening bracket the next item is the first value. -/
lemma nextItem_write {levels : Nat} {v : Value} (h : v.Exact levels) (rest : Bytes) :
    nextItem true (v.write ++ rest) = .ok (true, v.write ++ rest) := by
  obtain ⟨b, hb⟩ := h.exists_opensWith
  obtain ⟨tail, htext⟩ := hb.text
  rw [htext, List.cons_append, nextItem, skipSpace_cons hb.not_space]
  exact if_neg hb.not_close

/-- Behind a comma the next item is the value that follows. -/
lemma nextItem_comma_write {levels : Nat} {v : Value} (h : v.Exact levels) (rest : Bytes) :
    nextItem false (Ascii.comma :: (v.write ++ rest)) = .ok (true, v.write ++ rest) := by
  obtain ⟨b, hb⟩ := h.exists_opensWith
  obtain ⟨tail, htext⟩ := hb.text
  have hcomma : skipSpace (Ascii.comma :: (b :: (tail ++ rest)))
      = Ascii.comma :: (b :: (tail ++ rest)) := rfl
  have hclose : Ascii.comma ≠ Ascii.closeBracket := by decide
  rw [htext, List.cons_append, nextItem, hcomma]
  simp only [if_neg hclose, Bool.false_eq_true, if_false, if_true, skipSpace_cons hb.not_space,
    if_neg hb.not_close]

/-- The items of a list are written one by one, each but the first behind a comma. -/
lemma writeItems_cons (v : Value) (items : List Value) :
    writeItems (v :: items) = v.write ++ items.flatMap fun w => Ascii.comma :: w.write := by
  induction items generalizing v with
  | nil => rw [writeItems, List.flatMap_nil, List.append_nil]
  | cons w rest ih =>
    rw [writeItems, ih w, List.flatMap_cons, List.cons_append]
    exact List.cons_ne_nil w rest

/-- The items of a list are written with commas between them. -/
lemma writeItems_eq_separate (items : List Value) :
    writeItems items = separate (items.map Value.write) := by
  cases items with
  | nil => rfl
  | cons v items => rw [writeItems_cons, List.map_cons, separate, List.flatMap_map]

/-- The loop over the items of a list takes a text for an item, as the first one and behind a comma,
in front of anything that does not go on with a number. -/
def TakesItem {α : Type} (item : Reader α) (text : Bytes) (a : α) : Prop :=
  ∀ rest, EndsNumber rest → ∀ (rounds : Nat) (read : List α),
    readItems item (rounds + 1) true read (text ++ rest)
        = readItems item rounds false (a :: read) rest ∧
      readItems item (rounds + 1) false read (Ascii.comma :: (text ++ rest))
        = readItems item rounds false (a :: read) rest

section Items

variable {ι α : Type} {item : Reader α} {text : ι → Bytes} {result : ι → α} {items : List ι}

/-- Before a closing bracket the loop over the items of a list ends. -/
lemma readItems_close (rounds : Nat) (first : Bool) (read : List α) (rest : Bytes) :
    readItems item (rounds + 1) first read (Ascii.closeBracket :: rest)
      = .ok (read.reverse, rest) := rfl

/-- The loop over the items of a list goes on behind an item that it has read. -/
lemma readItems_of_next {first : Bool} {bs next rest : Bytes} {a : α}
    (hnext : nextItem first bs = .ok (true, next)) (hitem : item next = .ok (a, rest))
    (rounds : Nat) (read : List α) :
    readItems item (rounds + 1) first read bs = readItems item rounds false (a :: read) rest := by
  rw [readItems, hnext]
  simp only [hitem]

/-- The loop over the items of a list reads those whose texts stand behind commas. -/
lemma readItems_commas (htakes : ∀ i ∈ items, TakesItem item (text i) (result i)) {rounds : Nat}
    (hrounds : items.length < rounds) (read : List α) (rest : Bytes) :
    readItems item rounds false read
        (items.flatMap (fun i => Ascii.comma :: text i) ++ Ascii.closeBracket :: rest)
      = .ok (read.reverse ++ items.map result, rest) := by
  induction items generalizing rounds read with
  | nil =>
    obtain ⟨rounds, rfl⟩ := Nat.exists_eq_add_one_of_ne_zero (Nat.ne_zero_of_lt hrounds)
    rw [List.flatMap_nil, List.nil_append, readItems_close, List.map_nil, List.append_nil]
  | cons i items ih =>
    obtain ⟨rounds, rfl⟩ := Nat.exists_eq_add_one_of_ne_zero (Nat.ne_zero_of_lt hrounds)
    obtain ⟨hfirst, htakes⟩ := List.forall_mem_cons.mp htakes
    have hends := endsNumber_commas text items continuesNumber_closeBracket rest
    rw [List.flatMap_cons, List.cons_append, List.cons_append, List.append_assoc,
      (hfirst _ hends _ _).2, ih htakes (Nat.lt_of_succ_lt_succ hrounds), List.reverse_cons,
      List.append_assoc, List.singleton_append, List.map_cons]

/-- The items of a list are read from texts with commas between them. -/
lemma readItems_separate (htakes : ∀ i ∈ items, TakesItem item (text i) (result i)) {rounds : Nat}
    (hrounds : items.length < rounds) (rest : Bytes) :
    readItems item rounds true [] (separate (items.map text) ++ Ascii.closeBracket :: rest)
      = .ok (items.map result, rest) := by
  obtain ⟨rounds, rfl⟩ := Nat.exists_eq_add_one_of_ne_zero (Nat.ne_zero_of_lt hrounds)
  cases items with
  | nil => exact readItems_close rounds true [] rest
  | cons i items =>
    obtain ⟨hfirst, htakes⟩ := List.forall_mem_cons.mp htakes
    have hends := endsNumber_commas text items continuesNumber_closeBracket rest
    rw [List.map_cons, separate, List.flatMap_map, List.append_assoc, (hfirst _ hends _ _).1,
      readItems_commas htakes (Nat.lt_of_succ_lt_succ hrounds)]
    rfl

/-- What is written for an exact value is taken for an item. -/
lemma Reads.takesItem {levels : Nat} {v : Value} {a : α} (hexact : v.Exact levels)
    (h : Reads item v a) : TakesItem item v.write a := by
  intro rest hrest rounds read
  have hitem := h rest hrest
  exact ⟨readItems_of_next (nextItem_write hexact rest) hitem rounds read,
    readItems_of_next (nextItem_comma_write hexact rest) hitem rounds read⟩

/-- The items of a list are read, if each of them is. -/
lemma readItems_write {levels : Nat} (written : ι → Value)
    (hexact : ∀ i ∈ items, (written i).Exact levels)
    (hreads : ∀ i ∈ items, Reads item (written i) (result i)) (rest : Bytes) :
    let body := writeItems (items.map written) ++ Ascii.closeBracket :: rest
    readItems item (body.length + 1) true [] body = .ok (items.map result, rest) := by
  intro body
  have hbody : body = separate (items.map fun i => (written i).write) ++
      Ascii.closeBracket :: rest := by
    simp only [body, writeItems_eq_separate, List.map_map, Function.comp_def]
  rw [hbody]
  exact readItems_separate (fun i hi => (hreads i hi).takesItem (hexact i hi))
    (length_lt_rounds _ items [] Ascii.closeBracket rest) rest

end Items

/-! ## Objects -/

/-- A member as it is written. -/
def writeMember (m : String × Value) : Bytes :=
  writeString m.1 ++ Ascii.colon :: m.2.write

/-- Behind an opening brace the next key is the first one. -/
lemma nextKey_write (key : String) (rest : Bytes) :
    nextKey true (writeString key ++ rest) = .ok (some key, rest) := by
  have hquote (bs : Bytes) : skipSpace (Ascii.quote :: bs) = Ascii.quote :: bs := rfl
  have hclose : Ascii.quote ≠ Ascii.closeBrace := by decide
  rw [writeString_append, nextKey, hquote]
  simp only [if_neg hclose, if_true, stringBody_written]

/-- Behind a comma the next key is the one that follows. -/
lemma nextKey_comma_write (key : String) (rest : Bytes) :
    nextKey false (Ascii.comma :: (writeString key ++ rest)) = .ok (some key, rest) := by
  have hcomma (bs : Bytes) : skipSpace (Ascii.comma :: bs) = Ascii.comma :: bs := rfl
  have hquote (bs : Bytes) : skipSpace (Ascii.quote :: bs) = Ascii.quote :: bs := rfl
  have hclose : Ascii.comma ≠ Ascii.closeBrace := by decide
  rw [writeString_append, nextKey, hcomma]
  simp only [if_neg hclose, if_true, Bool.false_eq_true, if_false, hquote, stringBody_written]

/-- Before a closing brace there is no further key. -/
lemma nextKey_close (first : Bool) (rest : Bytes) :
    nextKey first (Ascii.closeBrace :: rest) = .ok (none, Ascii.closeBrace :: rest) := rfl

/-- A colon behind a key is passed. -/
lemma passColon_cons (rest : Bytes) : passColon (Ascii.colon :: rest) = .ok rest := rfl

/-- The members of an object are written one by one, each but the first behind a comma. -/
lemma writeMembers_cons (m : String × Value) (members : List (String × Value)) :
    writeMembers (m :: members)
      = writeMember m ++ members.flatMap fun w => Ascii.comma :: writeMember w := by
  induction members generalizing m with
  | nil => rw [writeMembers, List.flatMap_nil, List.append_nil, writeMember]
  | cons w rest ih =>
    rw [writeMembers, ih w, List.flatMap_cons, writeMember]
    · simp only [writeMember, List.cons_append, List.append_assoc]
    · exact List.cons_ne_nil w rest

/-- The members of an object with its end, after the first key. -/
lemma writeMembers_cons_append (m : String × Value) (members : List (String × Value))
    (rest : Bytes) :
    writeMembers (m :: members) ++ Ascii.closeBrace :: rest
      = writeString m.1 ++ Ascii.colon :: (m.2.write ++
        (members.flatMap (fun w => Ascii.comma :: writeMember w) ++ Ascii.closeBrace :: rest)) := by
  simp only [writeMembers_cons, writeMember, List.cons_append, List.append_assoc]

/-- Behind its first member an object has fewer members than bytes. -/
lemma length_lt_length_members (m : String × Value) (members : List (String × Value))
    (rest : Bytes) :
    members.length < (writeMembers (m :: members) ++ Ascii.closeBrace :: rest).length := by
  rw [writeMembers_cons, List.append_assoc]
  exact length_lt_length_commas writeMember members _ _ _

/-- The members of an object are written with commas between them. -/
lemma writeMembers_eq_separate (members : List (String × Value)) :
    writeMembers members = separate (members.map writeMember) := by
  cases members with
  | nil => rfl
  | cons m members => rw [writeMembers_cons, List.map_cons, separate, List.flatMap_map]

/-- The loop over the members of an object takes a text for a member, as the first one and behind a
comma, in front of anything that does not go on with a number. -/
def TakesMember (item : Reader Value) (text : Bytes) (m : String × Value) : Prop :=
  ∀ rest, EndsNumber rest → ∀ (rounds : Nat) (read : List (String × Value)),
    readMembers item (rounds + 1) true read (text ++ rest)
        = readMembers item rounds false (insertMember m.1 m.2 read) rest ∧
      readMembers item (rounds + 1) false read (Ascii.comma :: (text ++ rest))
        = readMembers item rounds false (insertMember m.1 m.2 read) rest

section Members

variable {item : Reader Value}

/-- Before a closing brace the loop over the members of an object ends. -/
lemma readMembers_close (rounds : Nat) (first : Bool) (read : List (String × Value))
    (rest : Bytes) :
    readMembers item (rounds + 1) first read (Ascii.closeBrace :: rest) = .ok (read, rest) := rfl

/-- The loop over the members of an object goes on behind a member that it has read. -/
lemma readMembers_of_next {first : Bool} {bs behind next rest : Bytes} {key : String} {v : Value}
    (hnext : nextKey first bs = .ok (some key, behind)) (hcolon : passColon behind = .ok next)
    (hitem : item next = .ok (v, rest)) (rounds : Nat) (read : List (String × Value)) :
    readMembers item (rounds + 1) first read bs
      = readMembers item rounds false (insertMember key v read) rest := by
  rw [readMembers, hnext]
  simp only [hcolon, hitem]

section Texts

variable {ι : Type} {text : ι → Bytes} {result : ι → String × Value} {members : List ι}

/-- The loop over the members of an object reads those whose texts stand behind commas. -/
lemma readMembers_commas (htakes : ∀ m ∈ members, TakesMember item (text m) (result m))
    {rounds : Nat} (hrounds : members.length < rounds) (read : List (String × Value))
    (rest : Bytes) :
    readMembers item rounds false read
        (members.flatMap (fun m => Ascii.comma :: text m) ++ Ascii.closeBrace :: rest)
      = .ok ((members.map result).foldl (fun sorted m => insertMember m.1 m.2 sorted) read,
        rest) := by
  induction members generalizing rounds read with
  | nil =>
    obtain ⟨rounds, rfl⟩ := Nat.exists_eq_add_one_of_ne_zero (Nat.ne_zero_of_lt hrounds)
    exact readMembers_close rounds false read rest
  | cons m members ih =>
    obtain ⟨rounds, rfl⟩ := Nat.exists_eq_add_one_of_ne_zero (Nat.ne_zero_of_lt hrounds)
    obtain ⟨hfirst, htakes⟩ := List.forall_mem_cons.mp htakes
    have hends := endsNumber_commas text members continuesNumber_closeBrace rest
    rw [List.flatMap_cons, List.cons_append, List.cons_append, List.append_assoc,
      (hfirst _ hends _ _).2, ih htakes (Nat.lt_of_succ_lt_succ hrounds), List.map_cons,
      List.foldl_cons]

/-- The members of an object are read from texts with commas between them and brought in order. -/
lemma readMembers_separate (htakes : ∀ m ∈ members, TakesMember item (text m) (result m))
    {rounds : Nat} (hrounds : members.length < rounds) (rest : Bytes) :
    readMembers item rounds true [] (separate (members.map text) ++ Ascii.closeBrace :: rest)
      = .ok (orderMembers (members.map result), rest) := by
  obtain ⟨rounds, rfl⟩ := Nat.exists_eq_add_one_of_ne_zero (Nat.ne_zero_of_lt hrounds)
  cases members with
  | nil => exact readMembers_close rounds true [] rest
  | cons m members =>
    obtain ⟨hfirst, htakes⟩ := List.forall_mem_cons.mp htakes
    have hends := endsNumber_commas text members continuesNumber_closeBrace rest
    rw [List.map_cons, separate, List.flatMap_map, List.append_assoc, (hfirst _ hends _ _).1,
      readMembers_commas htakes (Nat.lt_of_succ_lt_succ hrounds)]
    rfl

end Texts

/-- What is written for a member is taken for it. -/
lemma Reads.takesMember {m : String × Value} {v : Value} (h : Reads item m.2 v) :
    TakesMember item (writeMember m) (m.1, v) := by
  intro rest hrest rounds read
  have hitem := h rest hrest
  rw [writeMember, List.append_assoc, List.cons_append]
  exact ⟨readMembers_of_next (nextKey_write m.1 _) (passColon_cons _) hitem rounds read,
    readMembers_of_next (nextKey_comma_write m.1 _) (passColon_cons _) hitem rounds read⟩

/-- The members of an object are read and brought in order, if the value of each of them is read. -/
lemma readMembers_write {members : List (String × Value)}
    (hreads : ∀ m ∈ members, Reads item m.2 m.2.sortKeys) (rest : Bytes) :
    let body := writeMembers members ++ Ascii.closeBrace :: rest
    readMembers item (body.length + 1) true [] body
      = .ok (orderMembers (sortValues members), rest) := by
  intro body
  have hbody : body = separate (members.map writeMember) ++ Ascii.closeBrace :: rest :=
    congrArg (· ++ Ascii.closeBrace :: rest) (writeMembers_eq_separate members)
  rw [hbody, sortValues_eq_map]
  exact readMembers_separate (fun m hm => (hreads m hm).takesMember)
    (length_lt_rounds writeMember members [] Ascii.closeBrace rest) rest

end Members

/-! ## Values -/

/-- A value that starts with a sign or a digit is read as a number. -/
lemma readValue_of_opensNumber {nested : Option (Reader Value)} {b : UInt8}
    (hb : b = Ascii.minus ∨ Ascii.isDigit b = true) (rest : Bytes) :
    readValue nested (b :: rest) = number (b :: rest) := by
  have hspace : isSpace b = false := isSpace_of_opensNumber hb
  have hn : b ≠ Ascii.byte 'n' := ne_of_opensNumber hb (by decide)
  have ht : b ≠ Ascii.byte 't' := ne_of_opensNumber hb (by decide)
  have hf : b ≠ Ascii.byte 'f' := ne_of_opensNumber hb (by decide)
  have hquote : b ≠ Ascii.quote := ne_of_opensNumber hb (by decide)
  have hbracket : b ≠ Ascii.openBracket := ne_of_opensNumber hb (by decide)
  have hbrace : b ≠ Ascii.openBrace := ne_of_opensNumber hb (by decide)
  rw [readValue, skipSpace_cons hspace]
  simp only [if_neg hn, if_neg ht, if_neg hf, if_neg hquote, if_neg hbracket, if_neg hbrace,
    if_pos hb]

/-- A value that opens with a quote is read as a text. -/
lemma readValue_quote (nested : Option (Reader Value)) {s : String} {bs rest : Bytes}
    (h : stringBody bs = .ok (s, rest)) :
    readValue nested (Ascii.quote :: bs) = .ok (.string s, rest) := by
  have hspace : skipSpace (Ascii.quote :: bs) = Ascii.quote :: bs := rfl
  unfold readValue
  simp only [hspace, h]
  rfl

/-- A value that opens with a bracket is read as a list. -/
lemma readValue_openBracket {item : Reader Value} {items : List Value} {bs rest : Bytes}
    (h : readItems item (bs.length + 1) true [] bs = .ok (items, rest)) :
    readValue (some item) (Ascii.openBracket :: bs) = .ok (.array items, rest) := by
  have hspace : skipSpace (Ascii.openBracket :: bs) = Ascii.openBracket :: bs := rfl
  unfold readValue
  simp only [hspace, h]
  rfl

/-- A value that opens with a brace is read as an object. -/
lemma readValue_openBrace {item : Reader Value} {members : List (String × Value)}
    {bs rest : Bytes} (h : readMembers item (bs.length + 1) true [] bs = .ok (members, rest)) :
    readValue (some item) (Ascii.openBrace :: bs) = .ok (.object members, rest) := by
  have hspace : skipSpace (Ascii.openBrace :: bs) = Ascii.openBrace :: bs := rfl
  unfold readValue
  simp only [hspace, h]
  rfl

/-- An integer is read as a number. -/
lemma value_writeInt (depth : Nat) (n : Int) (rest : Bytes) :
    value depth (writeInt n ++ rest) = number (writeInt n ++ rest) := by
  obtain ⟨b, digits, htext, hb⟩ := exists_writeInt n
  rw [htext, List.cons_append]
  cases depth <;> exact readValue_of_opensNumber hb _

/-- An exact value is read back with its keys sorted, as deep as values may be nested. -/
theorem value_write {levels depth : Nat} {v : Value} (h : v.Exact levels)
    (hdepth : levels ≤ depth) : Reads (value depth) v v.sortKeys := by
  -- the induction is on the nesting: the values in a list or an object are read one level deeper
  induction h generalizing depth with
  | null => cases depth <;> exact fun rest _ => rfl
  | bool b => cases depth <;> cases b <;> exact fun rest _ => rfl
  | integer n =>
    intro rest hrest
    rw [Value.write, value_writeInt, number_writeInt n hrest, Value.sortKeys]
  | string s =>
    intro rest _
    rw [Value.write, writeString_append, Value.sortKeys]
    cases depth <;> exact readValue_quote _ (stringBody_written s rest)
  | @array levels items hexact ih =>
    obtain ⟨depth, rfl⟩ := Nat.exists_eq_add_one_of_ne_zero (Nat.ne_zero_of_lt hdepth)
    intro rest _
    have hitems := readItems_write id hexact
      (fun v hv => ih v hv (Nat.le_of_succ_le_succ hdepth)) rest
    rw [List.map_id, ← sortItems_eq_map] at hitems
    rw [Value.write, List.append_assoc, List.cons_append, List.singleton_append, Value.sortKeys]
    exact readValue_openBracket hitems
  | @object levels members hexact ih =>
    obtain ⟨depth, rfl⟩ := Nat.exists_eq_add_one_of_ne_zero (Nat.ne_zero_of_lt hdepth)
    intro rest _
    have hmembers := readMembers_write
      (fun m hm => ih m hm (Nat.le_of_succ_le_succ hdepth)) rest
    rw [Value.write, List.append_assoc, List.cons_append, List.singleton_append, Value.sortKeys]
    exact readValue_openBrace hmembers

/-- What is written for a value is read as a whole text, if the value is read and stopped behind. -/
lemma readAll_write {α : Type} {reader : Reader α} {v : Value} {a : α} (h : Reads reader v a) :
    readAll reader v.write = .ok a := by
  have hread := h [] .nil
  rw [List.append_nil] at hread
  rw [readAll, hread]
  rfl

/-- An exact value is parsed back with its keys sorted, unless it is nested too deeply. -/
theorem parse_write {levels : Nat} {v : Value} (h : v.Exact levels)
    (hlevels : levels ≤ nestingLimit) : parse v.write = .ok v.sortKeys :=
  readAll_write (value_write h hlevels)

end ChainView.Json
