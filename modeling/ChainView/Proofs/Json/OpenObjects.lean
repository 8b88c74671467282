import ChainView.Proofs.Json.Literals

/-!
# Objects with one value left open

What becomes of a text depends on a single value in it, all else being equal.  An `OpenObject` is
the text of an object in which the text of one value is left open: the other members have texts from
which their values are read, and none of those behind it has the same key, so that the open value is
the one that counts.  If a value is read from the text that is put in, then the whole text is parsed
as the object with this value (`OpenObject.parse_fill`), and the other members are what they are.
If the reader fails at the text that is put in, then the whole text is not JSON
(`OpenObject.exists_parse_fill_eq_error`).
-/

namespace ChainView.Json

/-! ## Where the loop over members ends -/

section Members

variable {item : Reader Value}

/-- The loop over the members of an object fails at the text of a member, as the first one and
behind a comma. -/
def FailsMember (item : Reader Value) (text : Bytes) : Prop :=
  ∀ rest, EndsNumber rest → ∃ fault, ∀ (rounds : ℕ) (read : List (String × Value)),
    readMembers item (rounds + 1) true read (text ++ rest) = .error fault ∧
      readMembers item (rounds + 1) false read (Ascii.comma :: (text ++ rest)) = .error fault

/-- The loop over the members of an object fails at a member whose value is not read. -/
lemma readMembers_eq_error_of_next {first : Bool} {bs behind next : Bytes} {key : String}
    {fault : Fault} (hnext : nextKey first bs = .ok (some key, behind))
    (hcolon : passColon behind = .ok next) (hitem : item next = .error fault) (rounds : ℕ)
    (read : List (String × Value)) :
    readMembers item (rounds + 1) first read bs = .error fault := by
  rw [readMembers, hnext]
  simp only [hcolon, hitem]

/-- The loop fails at a member if the reader of values fails at its value. -/
lemma FailsText.failsMember {depth : ℕ} {key : String} {keyText text : Bytes}
    (hkey : KeyText key keyText) (h : FailsText (value depth) text) :
    FailsMember (value depth) (keyText ++ Ascii.colon :: text) := by
  obtain ⟨between, hbetween, hnext⟩ := hkey.nextKey
  intro rest hrest
  obtain ⟨fault, hitem⟩ := h rest hrest
  have hcolon (next : Bytes) : passColon (between ++ Ascii.colon :: next) = .ok next :=
    (passColon_blank hbetween _).trans (passColon_cons next)
  refine ⟨fault, fun rounds read => ?_⟩
  rw [List.append_assoc, List.cons_append]
  exact ⟨readMembers_eq_error_of_next (hnext _).1 (hcolon _) hitem rounds read,
    readMembers_eq_error_of_next (hnext _).2 (hcolon _) hitem rounds read⟩

variable {ι : Type} {text : ι → Bytes} {result : ι → String × Value} {members : List ι}

/-- The loop fails at a member behind others that it takes, all of them behind commas. -/
lemma exists_readMembers_commas_eq_error
    (htakes : ∀ m ∈ members, TakesMember item (text m) (result m)) {failing : Bytes}
    (hfails : FailsMember item failing) {rounds : ℕ} (hrounds : members.length < rounds)
    (read : List (String × Value)) {rest : Bytes} (hrest : EndsNumber rest) :
    ∃ fault, readMembers item rounds false read
      (members.flatMap (fun m => Ascii.comma :: text m) ++ Ascii.comma :: (failing ++ rest)) =
        .error fault := by
  induction members generalizing rounds read with
  | nil =>
    obtain ⟨rounds, rfl⟩ := Nat.exists_eq_add_one_of_ne_zero (Nat.ne_zero_of_lt hrounds)
    obtain ⟨fault, hfault⟩ := hfails rest hrest
    exact ⟨fault, (hfault rounds read).2⟩
  | cons m members ih =>
    obtain ⟨rounds, rfl⟩ := Nat.exists_eq_add_one_of_ne_zero (Nat.ne_zero_of_lt hrounds)
    obtain ⟨hfirst, htakes⟩ := List.forall_mem_cons.mp htakes
    have hends : EndsNumber (members.flatMap (fun m => Ascii.comma :: text m) ++
        Ascii.comma :: (failing ++ rest)) :=
      endsNumber_commas text members (by decide) _
    rw [List.flatMap_cons, List.cons_append, List.cons_append, List.append_assoc,
      (hfirst _ hends _ _).2]
    exact ih htakes (Nat.lt_of_succ_lt_succ hrounds) _

/-- The loop fails at a member among others, if it takes those before it. -/
lemma exists_readMembers_separate_eq_error
    (htakes : ∀ m ∈ members, TakesMember item (text m) (result m)) {failing : Bytes}
    (hfails : FailsMember item failing) {rounds : ℕ} (hrounds : members.length < rounds)
    (others : List Bytes) (rest : Bytes) :
    ∃ fault, readMembers item rounds true []
      (separate (members.map text ++ failing :: others) ++ Ascii.closeBrace :: rest) =
        .error fault := by
  have hends : EndsNumber (others.flatMap (fun t => Ascii.comma :: t) ++
      Ascii.closeBrace :: rest) :=
    endsNumber_commas id others continuesNumber_closeBrace rest
  obtain ⟨rounds, rfl⟩ := Nat.exists_eq_add_one_of_ne_zero (Nat.ne_zero_of_lt hrounds)
  cases members with
  | nil =>
    obtain ⟨fault, hfault⟩ := hfails _ hends
    rw [List.map_nil, List.nil_append, separate, List.append_assoc]
    exact ⟨fault, (hfault rounds []).1⟩
  | cons m members =>
    obtain ⟨hfirst, htakes⟩ := List.forall_mem_cons.mp htakes
    have hendsFirst : EndsNumber (members.flatMap (fun m => Ascii.comma :: text m) ++
        Ascii.comma :: (failing ++ (others.flatMap (fun t => Ascii.comma :: t) ++
          Ascii.closeBrace :: rest))) :=
      endsNumber_commas text members (by decide) _
    have htext : separate ((m :: members).map text ++ failing :: others) ++
        Ascii.closeBrace :: rest =
        text m ++ (members.flatMap (fun m => Ascii.comma :: text m) ++
          Ascii.comma :: (failing ++ (others.flatMap (fun t => Ascii.comma :: t) ++
            Ascii.closeBrace :: rest))) := by
      simp [separate, List.flatMap_map]
    rw [htext, (hfirst _ hendsFirst _ _).1]
    exact exists_readMembers_commas_eq_error htakes hfails (Nat.lt_of_succ_lt_succ hrounds) _ hends

end Members

/-- The reader of values fails at an object if the loop over its members does. -/
lemma readValue_openBrace_eq_error {item : Reader Value} {fault : Fault} {bs : Bytes}
    (h : readMembers item (bs.length + 1) true [] bs = .error fault) :
    readValue (some item) (Ascii.openBrace :: bs) = .error fault := by
  have hspace : skipSpace (Ascii.openBrace :: bs) = Ascii.openBrace :: bs := rfl
  unfold readValue
  simp only [hspace, h]
  rfl

/-! ## Open objects -/

/-- The text of an object in which the text of one value is left open. -/
structure OpenObject where
  /-- The key of the open value. -/
  key : String
  /-- The text of this key. -/
  keyText : Bytes
  /-- The members before it. -/
  before : List MemberText
  /-- The members behind it. -/
  behind : List MemberText
  /-- The separators in front of the object. -/
  lead : Bytes
  /-- The separators behind its opening brace. -/
  gap : Bytes
  /-- The separators behind the object. -/
  trail : Bytes
  /-- The text of the key spells it. -/
  keyText_spells : KeyText key keyText
  /-- So do those of the other keys. -/
  keys : ∀ m ∈ before ++ behind, KeyText m.key m.keyText
  /-- The other values are read from their texts. -/
  values : ∀ m ∈ before ++ behind,
    ReadsText (Json.value (nestingLimit - 1)) m.valueText m.value
  /-- No member behind it has its key. -/
  last : ∀ m ∈ behind, m.key ≠ key
  /-- The separators are separators. -/
  blank : Blank lead ∧ Blank gap ∧ Blank trail

namespace OpenObject

/-- An object as it is written, with one of its values left open.  The others are exact and have
their keys in order. -/
def written (key : String) (before behind : List (String × Value))
    (hvalues : ∀ m ∈ before ++ behind, m.2.Exact (nestingLimit - 1) ∧ m.2.sortKeys = m.2)
    (hlast : ∀ m ∈ behind, m.1 ≠ key) : OpenObject where
  key := key
  keyText := writeString key
  before := before.map MemberText.written
  behind := behind.map MemberText.written
  lead := []
  gap := []
  trail := []
  keyText_spells := keyText_writeString key
  keys := by
    rw [← List.map_append]
    exact List.forall_mem_map.mpr fun m _ => keyText_writeString m.1
  values := by
    rw [← List.map_append]
    refine List.forall_mem_map.mpr fun m hm => ?_
    obtain ⟨hexact, hsorted⟩ := hvalues m hm
    have hread := (value_write hexact (Nat.le_refl _)).readsText
    rwa [hsorted] at hread
  last := List.forall_mem_map.mpr hlast
  blank := ⟨blank_nil, blank_nil, blank_nil⟩

variable (o : OpenObject)

/-- The texts of the members with a text put in. -/
def texts (text : Bytes) : List Bytes :=
  o.before.map MemberText.text ++ (o.keyText ++ Ascii.colon :: text) ::
    o.behind.map MemberText.text

/-- The whole text with a text put in. -/
def fill (text : Bytes) : Bytes :=
  o.lead ++ Ascii.openBrace ::
    (o.gap ++ (separate (o.texts text) ++ Ascii.closeBrace :: o.trail))

/-- The members with a value put in, in the order of their keys. -/
def members (v : Value) : List (String × Value) :=
  orderMembers (o.before.map MemberText.member ++ (o.key, v) :: o.behind.map MemberText.member)

/-- Under its key the value is found that is put in. -/
lemma lookup_members_self (v : Value) : (o.members v).lookup o.key = some v := by
  have hbehind : (o.behind.map MemberText.member).reverse.lookup o.key = none := by
    rw [List.lookup_eq_none_iff]
    intro m hm
    obtain ⟨t, ht, rfl⟩ := List.mem_map.mp (List.mem_reverse.mp hm)
    exact bne_iff_ne.mpr (Ne.symm (o.last t ht))
  rw [members, lookup_orderMembers, List.reverse_append, List.reverse_cons, List.append_assoc,
    List.lookup_append, hbehind, Option.none_or, List.singleton_append, List.lookup_cons_self]

/-- Under the other keys it does not matter which value is put in. -/
lemma lookup_members_of_ne {key : String} (hne : key ≠ o.key) (v w : Value) :
    (o.members v).lookup key = (o.members w).lookup key := by
  have hb : (key == o.key) = false := by simpa using hne
  simp only [members, lookup_orderMembers, List.reverse_append, List.reverse_cons,
    List.append_assoc, List.lookup_append, List.singleton_append, List.lookup_cons, hb]

/-- In an object as it is written the keys are looked up among its members. -/
lemma lookup_members_written {openKey : String} {before behind : List (String × Value)}
    (hvalues hlast) (v : Value) (key : String) :
    ((written openKey before behind hvalues hlast).members v).lookup key =
      (before ++ (openKey, v) :: behind).reverse.lookup key := by
  have hmember : MemberText.member ∘ MemberText.written = id := rfl
  rw [members, written, lookup_orderMembers]
  simp only [List.map_map, hmember, List.map_id]

section Fill

variable {text : Bytes}

/-- The members are taken with the values that are read from their texts. -/
lemma takesMember {m : MemberText} (hm : m ∈ o.before ++ o.behind) :
    TakesMember (value (nestingLimit - 1)) m.text m.member :=
  (o.values m hm).takesMember (o.keys m hm)

/-- If a value is read from the text that is put in, the whole text is parsed as the object with
this value. -/
lemma parse_fill {v : Value} (h : ReadsText (value (nestingLimit - 1)) text v) :
    parse (o.fill text) = .ok (.object (o.members v)) := by
  obtain ⟨hlead, hgap, htrail⟩ := o.blank
  -- the members of the whole text, with the one that was open
  obtain ⟨sent, hsent⟩ : ∃ sent, sent =
      o.before ++ (⟨o.key, v, o.keyText, text⟩ : MemberText) :: o.behind := ⟨_, rfl⟩
  have htexts : o.texts text = sent.map MemberText.text := by
    rw [hsent, List.map_append, List.map_cons]
    rfl
  have hmembers : o.members v = orderMembers (sent.map MemberText.member) := by
    rw [hsent, List.map_append, List.map_cons]
    rfl
  have htakes : ∀ m ∈ sent, TakesMember (value (nestingLimit - 1)) m.text m.member := by
    intro m hm
    rw [hsent, List.mem_append, List.mem_cons] at hm
    rcases hm with hm | rfl | hm
    · exact o.takesMember (List.mem_append_left _ hm)
    · exact ReadsText.takesMember o.keyText_spells h
    · exact o.takesMember (List.mem_append_right _ hm)
  have hvalue : value nestingLimit (o.fill text) = .ok (.object (o.members v), o.trail) := by
    rw [fill, value_blank hlead, htexts, hmembers]
    refine readValue_openBrace ?_
    rw [readMembers_blank hgap]
    exact readMembers_separate htakes
      (length_lt_rounds MemberText.text sent o.gap Ascii.closeBrace o.trail) o.trail
  have hskip : skipSpace o.trail = [] := by
    rw [← List.append_nil o.trail]
    exact skipSpace_blank htrail []
  simp only [parse, readAll, hvalue, hskip]

/-- If the reader of values fails at the text that is put in, the whole text is not JSON. -/
lemma exists_parse_fill_eq_error (h : FailsText (value (nestingLimit - 1)) text) :
    ∃ fault, parse (o.fill text) = .error fault := by
  obtain ⟨hlead, hgap, -⟩ := o.blank
  have hrounds := length_lt_rounds id (o.texts text) o.gap Ascii.closeBrace o.trail
  have hbefore : o.before.length ≤ (o.texts text).length := by
    simp [texts]
  rw [List.map_id] at hrounds
  obtain ⟨fault, hfault⟩ := exists_readMembers_separate_eq_error
    (fun m hm => o.takesMember (List.mem_append_left _ hm))
    (FailsText.failsMember o.keyText_spells h) (Nat.lt_of_le_of_lt hbefore hrounds)
    (o.behind.map MemberText.text) o.trail
  refine ⟨fault, ?_⟩
  have hvalue : value nestingLimit (o.fill text) = .error fault := by
    rw [fill, value_blank hlead]
    refine readValue_openBrace_eq_error ?_
    rw [readMembers_blank hgap]
    exact hfault
  simp only [parse, readAll, hvalue]

end Fill

end OpenObject

end ChainView.Json
