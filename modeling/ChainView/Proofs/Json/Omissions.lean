import ChainView.Proofs.Json.Records

/-!
# Objects with members left out

A record whose members may all be missing can be read from any part of an object.  What is left of
a value is said by the paths of keys to its members: `Value.keeping` leaves out every member whose
path is not kept, together with all that is in it.  If a shape takes the members that are left, each
with its value or, where it is left out, with the default that the blank record has in its place,
then the object is read as the record that they lead to, in whatever order the members that are left
stand (`Shape.TakesKept.reads`).
-/

namespace ChainView.Json

variable {α σ : Type}

/-- Which paths are kept inside the member of a key. -/
def within (keep : List String → Bool) (key : String) : List String → Bool :=
  fun path => keep (key :: path)

mutual

/-- What is left of a value: the members of objects with paths that are kept. -/
def Value.keeping (keep : List String → Bool) : Value → Value
  | .object members => .object (keepMembers keep members)
  | .array items => .array items
  | .null => .null
  | .bool b => .bool b
  | .integer n => .integer n
  | .float x => .float x
  | .string s => .string s

/-- What is left of the members of an object. -/
def keepMembers (keep : List String → Bool) : List (String × Value) → List (String × Value)
  | [] => []
  | (key, v) :: members =>
    if keep [key] then (key, v.keeping (within keep key)) :: keepMembers keep members
    else keepMembers keep members

end

mutual

/-- A value differs from another only in the order of the members of objects, at any level. -/
inductive Value.Reorders : Value → Value → Prop
  /-- It does not differ. -/
  | refl (v : Value) : Value.Reorders v v
  /-- The members of an object stand in another order, and so may the members of their values. -/
  | object {members others result : List (String × Value)}
      (hvalues : ReorderedValues members others) (hperm : others.Perm result) :
      Value.Reorders (.object members) (.object result)

/-- Members have the same keys, and values that differ in the order of members only. -/
inductive ReorderedValues : List (String × Value) → List (String × Value) → Prop
  /-- There are no members. -/
  | nil : ReorderedValues [] []
  /-- The first members have the same key, and the order of members may differ in their values. -/
  | cons (key : String) {v w : Value} {members others : List (String × Value)}
      (hvalue : Value.Reorders v w) (h : ReorderedValues members others) :
      ReorderedValues ((key, v) :: members) ((key, w) :: others)

end

namespace ReorderedValues

/-- Members have the values that they have. -/
lemma refl : (members : List (String × Value)) → ReorderedValues members members
  | [] => .nil
  | (key, v) :: members => .cons key (.refl v) (refl members)

/-- Members with reordered values have the same keys. -/
lemma keys : {members others : List (String × Value)} → ReorderedValues members others →
    others.map Prod.fst = members.map Prod.fst
  | _, _, .nil => rfl
  | _, _, .cons key _ h => congrArg (key :: ·) h.keys

end ReorderedValues

/-- An object in another order is one of its own members with reordered values, in another order. -/
lemma exists_perm_of_reorders {members : List (String × Value)} {w : Value}
    (h : (Value.object members).Reorders w) :
    ∃ others result, w = .object result ∧ ReorderedValues members others ∧ others.Perm result := by
  cases h with
  | refl => exact ⟨members, members, rfl, .refl members, .refl members⟩
  | object hvalues hperm => exact ⟨_, _, rfl, hvalues, hperm⟩

/-- A value is read, in whatever order the members of its objects stand. -/
def ReadsReordered (reader : Reader α) (v : Value) (a : α) : Prop :=
  ∀ w, v.Reorders w → Reads reader w a

/-- What is no object is read in the only order that there is. -/
lemma Reads.reordered {reader : Reader α} {v : Value} {a : α} (h : Reads reader v a)
    (hv : ∀ members, v ≠ .object members) : ReadsReordered reader v a := by
  intro w hw
  cases hw with
  | refl => exact h
  | object => exact absurd rfl (hv _)

/-- The keys of the members that are left are among those of all members, in their order. -/
lemma keys_keepMembers_sublist (keep : List String → Bool) (members : List (String × Value)) :
    ((keepMembers keep members).map Prod.fst).Sublist (members.map Prod.fst) := by
  induction members with
  | nil => exact .slnil
  | cons m members ih =>
    obtain ⟨key, v⟩ := m
    rw [keepMembers]
    split_ifs
    · exact ih.cons_cons key
    · exact ih.cons key

namespace Shape

variable {shape : Shape σ} {depth : ℕ} {keep : List String → Bool} {r s : σ}
  {members : List (String × Value)}

/-- A shape takes the members that are left, with their values in any order. -/
def TakesKept (shape : Shape σ) (depth : ℕ) (keep : List String → Bool)
    (members : List (String × Value)) (r s : σ) : Prop :=
  ∀ others, ReorderedValues (keepMembers keep members) others → shape.Takes depth others r s

namespace TakesKept

/-- There are no members. -/
lemma nil : shape.TakesKept depth keep [] r r := by
  intro others h
  cases h
  exact .nil r

/-- The first member is set to its value, or to the default in its place if it is left out. -/
lemma cons {key : String} {v : Value} {d : Decoder α} {put : σ → α → σ} {a default : α}
    (hfind : shape.find? key = some (mayHave key d put)) (hdefault : put r default = r)
    (hread : ReadsReordered (d depth) (v.keeping (within keep key)) a)
    (h : shape.TakesKept depth keep members (put r (if keep [key] then a else default)) s) :
    shape.TakesKept depth keep ((key, v) :: members) r s := by
  intro others hothers
  rw [keepMembers] at hothers
  split_ifs at h hothers
  · cases hothers with
    | cons _ hvalue hothers => exact .cons hfind ((hread _ hvalue).map _) (h _ hothers)
  · rw [hdefault] at h
    exact h others hothers

/-- What is left of an object is read as the record that the members that are left lead to, if none
is required and they may be set in any order. -/
theorem reads (h : shape.TakesKept depth keep members shape.blank s) (hs : shape.Independent)
    (hkeys : members.map Prod.fst = shape.members.map Member.name)
    (hfree : ∀ m ∈ shape.members, m.required = false) :
    ReadsReordered (shape.decoder (depth + 1)) ((Value.object members).keeping keep) s := by
  intro w hw
  rw [Value.keeping] at hw
  obtain ⟨others, result, rfl, hvalues, hperm⟩ := exists_perm_of_reorders hw
  have hnodup : (others.map Prod.fst).Nodup := by
    rw [hvalues.keys]
    exact (hkeys ▸ hs.nodup : (members.map Prod.fst).Nodup).sublist (keys_keepMembers_sublist _ _)
  have hmissing (seen : List String) : shape.missing? seen = none := by
    refine List.find?_eq_none.mpr fun m hm => ?_
    simp [hfree m hm]
  exact ((h others hvalues).perm hs hperm hnodup).reads
    ((hperm.map Prod.fst).nodup_iff.mp hnodup) (hmissing _)

end TakesKept

end Shape

end ChainView.Json
