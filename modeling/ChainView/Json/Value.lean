/-!
# JSON values

The values that requests, results and settings are made of.  An integer is kept exactly as long as
it fits a 64-bit word of either sign; every other number is a double-precision one.  An object is
its list of members.  A value that was read has its members in the order of their keys and no key
twice, and `sortKeys` brings any value into that order.
-/

namespace ChainView.Json

/-- An integer that fits a signed or an unsigned 64-bit word. -/
structure Integer where
  /-- The integer. -/
  toInt : Int
  /-- It is at least the least signed word. -/
  lower : -9223372036854775808 ≤ toInt
  /-- It is at most the greatest unsigned word. -/
  upper : toInt < 18446744073709551616
  deriving DecidableEq

namespace Integer

/-- The integer `n`, if it fits. -/
def ofInt? (n : Int) : Option Integer :=
  if h : -9223372036854775808 ≤ n ∧ n < 18446744073709551616 then some ⟨n, h.1, h.2⟩ else none

/-- An unsigned word as an integer. -/
def ofUInt64 (n : UInt64) : Integer where
  toInt := n.toNat
  lower := by omega
  upper := by have := n.toNat_lt; omega

/-- A signed 32-bit word as an integer. -/
def ofInt32 (n : Int32) : Integer where
  toInt := n.toInt
  lower := by have := n.le_toInt; omega
  upper := by have := n.toInt_lt; omega

/-- The integer as an unsigned word, unless it is negative. -/
def toUInt64? (n : Integer) : Option UInt64 :=
  if 0 ≤ n.toInt then some (UInt64.ofNat n.toInt.toNat) else none

instance : Inhabited Integer := ⟨ofUInt64 0⟩

@[ext] theorem ext {m n : Integer} (h : m.toInt = n.toInt) : m = n := by
  cases m; cases n; cases h; rfl

@[simp] theorem toInt_ofUInt64 (n : UInt64) : (ofUInt64 n).toInt = n.toNat := rfl

/-- An integer in range is kept. -/
theorem ofInt?_toInt (n : Integer) : ofInt? n.toInt = some n :=
  dif_pos ⟨n.lower, n.upper⟩

/-- Only an integer in range is kept, and it is kept unchanged. -/
theorem ofInt?_eq_some_iff {i : Int} {n : Integer} : ofInt? i = some n ↔ n.toInt = i := by
  constructor
  · intro h
    unfold ofInt? at h
    split at h
    · cases h; rfl
    · cases h
  · rintro rfl
    exact ofInt?_toInt n

/-- An unsigned word comes back from the integer made of it. -/
@[simp] theorem toUInt64?_ofUInt64 (n : UInt64) : (ofUInt64 n).toUInt64? = some n := by
  simp [toUInt64?, ofUInt64]

/-- The integer is an unsigned word exactly when it is that word's value. -/
theorem toUInt64?_eq_some_iff {n : Integer} {w : UInt64} :
    n.toUInt64? = some w ↔ n.toInt = w.toNat := by
  unfold toUInt64?
  split
  · rename_i h
    have hu := n.upper
    have hlt : n.toInt.toNat < UInt64.size := by
      have : UInt64.size = 18446744073709551616 := rfl
      omega
    constructor
    · intro hw
      cases hw
      rw [UInt64.toNat_ofNat_of_lt' hlt]
      omega
    · intro hw
      congr 1
      apply UInt64.toNat_inj.mp
      rw [UInt64.toNat_ofNat_of_lt' hlt]
      omega
  · rename_i h
    constructor
    · rintro ⟨⟩
    · intro hw
      omega

end Integer

/-- A JSON value. -/
inductive Value where
  /-- The null value. -/
  | null
  /-- A truth value. -/
  | bool (b : Bool)
  /-- An integer that fits a 64-bit word. -/
  | integer (n : Integer)
  /-- Any other number. -/
  | float (x : Float)
  /-- A text. -/
  | string (s : String)
  /-- A list of values. -/
  | array (items : List Value)
  /-- Named values. -/
  | object (members : List (String × Value))
  deriving Inhabited

namespace Value

/-- An unsigned word as a value. -/
def word (n : UInt64) : Value :=
  .integer (.ofUInt64 n)

/-- A value that may be missing, null standing for its absence. -/
def ofOption (v : Option Value) : Value :=
  v.getD .null

/-- The unsigned word that a value is, if it is one. -/
def word? : Value → Option UInt64
  | .integer n => n.toUInt64?
  | _ => none

/-- The text that a value is, if it is one. -/
def string? : Value → Option String
  | .string s => some s
  | _ => none

/-- The items of a list. -/
def array? : Value → Option (List Value)
  | .array items => some items
  | _ => none

/-- Whether a value is null. -/
def isNull : Value → Bool
  | .null => true
  | _ => false

/-- The value of a member, if the value is an object that has one of that name. -/
def get? (key : String) : Value → Option Value
  | .object members => members.lookup key
  | _ => none

end Value

/-- The members with `key` set to `v`: at its place in the order of keys, in place of any member
of that key. -/
def insertMember (key : String) (v : Value) : List (String × Value) → List (String × Value)
  | [] => [(key, v)]
  | (k, w) :: rest =>
    if key < k then (key, v) :: (k, w) :: rest
    else if key = k then (key, v) :: rest
    else (k, w) :: insertMember key v rest

/-- The members in the order of their keys; of several with one key the last. -/
def orderMembers (members : List (String × Value)) : List (String × Value) :=
  members.foldl (fun sorted m => insertMember m.1 m.2 sorted) []

mutual

/-- The value with the members of every object in the order of their keys. -/
def Value.sortKeys : Value → Value
  | .array items => .array (sortItems items)
  | .object members => .object (orderMembers (sortValues members))
  | .null => .null
  | .bool b => .bool b
  | .integer n => .integer n
  | .float x => .float x
  | .string s => .string s

/-- Every item with its keys sorted. -/
def sortItems : List Value → List Value
  | [] => []
  | v :: rest => v.sortKeys :: sortItems rest

/-- Every member with the keys of its value sorted. -/
def sortValues : List (String × Value) → List (String × Value)
  | [] => []
  | (k, v) :: rest => (k, v.sortKeys) :: sortValues rest

end

/-- The keys of a list of members strictly increase. -/
def KeysIncrease (members : List (String × Value)) : Prop :=
  members.Pairwise fun a b => a.1 < b.1

/-- After an insertion the member is there. -/
theorem lookup_insertMember_self (key : String) (v : Value) (members : List (String × Value)) :
    (insertMember key v members).lookup key = some v := by
  induction members with
  | nil => exact List.lookup_cons_self
  | cons m rest ih =>
    obtain ⟨k, w⟩ := m
    unfold insertMember
    split
    · exact List.lookup_cons_self
    · split
      · exact List.lookup_cons_self
      · rename_i hne
        have hb : (key == k) = false := by simpa using hne
        rw [List.lookup_cons, hb]
        exact ih

/-- An insertion leaves the other keys alone. -/
theorem lookup_insertMember_of_ne {key other : String} (h : other ≠ key) (v : Value)
    (members : List (String × Value)) :
    (insertMember key v members).lookup other = members.lookup other := by
  have hb : (other == key) = false := by simpa using h
  induction members with
  | nil => rw [insertMember, List.lookup_cons, hb]
  | cons m rest ih =>
    obtain ⟨k, w⟩ := m
    unfold insertMember
    split
    · rw [List.lookup_cons, hb]
    · split
      · rename_i hk
        subst hk
        rw [List.lookup_cons, List.lookup_cons, hb]
      · rw [List.lookup_cons, List.lookup_cons, ih]

end ChainView.Json
