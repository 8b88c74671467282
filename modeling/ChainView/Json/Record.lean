import ChainView.Json.Decode

/-!
# Reading records

A record is written as an object, or as the list of its members in their order.  Its shape names
the members and says how each is read.  Reading starts from a blank record and sets one member
after the other.  Unknown members are passed over, a member may occur only once, and one that is
required must occur.  A lenient record has defaults, so that nothing is required of it, not even
the full length of its list form.
-/

namespace ChainView.Json

/-- A member of a record of type `σ`. -/
structure Member (σ : Type) where
  /-- The key under which it is written. -/
  name : String
  /-- Whether an object without it is refused. -/
  required : Bool
  /-- Reads its value and sets it in a record. -/
  read : Decoder (σ → σ)

/-- How a record of type `σ` is written. -/
structure Shape (σ : Type) where
  /-- The name of the record in messages. -/
  name : String
  /-- The record before any member is read. -/
  blank : σ
  /-- The members in their order. -/
  members : List (Member σ)
  /-- Whether the list form may stop early. -/
  lenient : Bool

namespace Shape

variable {σ : Type} (shape : Shape σ)

/-- Ends a list behind its last member. -/
def endList (bs : Bytes) : Except Fault Bytes :=
  match skipSpace bs with
  | [] => failAt .endInList []
  | b :: rest =>
    if b = Ascii.closeBracket then .ok rest
    else if b = Ascii.comma then
      match skipSpace rest with
      | c :: rest =>
        if c = Ascii.closeBracket then failAt .trailingComma (c :: rest)
        else failAt .trailingCharacters (c :: rest)
      | [] => failAt .trailingCharacters []
    else failAt .trailingCharacters (b :: rest)

/-- Reads the members `due` of the list form, of which `seen` are read. -/
def readList (depth : Nat) : (due : List (Member σ)) → (seen : Nat) → σ → Reader σ
  | [], _, record, bs =>
    match endList bs with
    | .error fault => .error fault
    | .ok rest => .ok (record, rest)
  | m :: due, seen, record, bs =>
    match nextItem (seen = 0) bs with
    | .error fault => .error fault
    | .ok (false, bs) =>
      if shape.lenient then .ok (record, bs.drop 1)
      else failBefore (.tooShort seen shape.name shape.members.length) bs
    | .ok (true, bs) =>
      match m.read depth bs with
      | .error fault => .error fault
      | .ok (set, bs) => readList depth due (seen + 1) (set record) bs

/-- The first required member whose name is not among `seen`. -/
def missing? (seen : List String) : Option (Member σ) :=
  shape.members.find? fun m => m.required && !seen.contains m.name

/-- The member of a name. -/
def find? (name : String) : Option (Member σ) :=
  shape.members.find? fun m => m.name == name

/-- Reads the members of the object form; `seen` are the names of those that are read. -/
def readObject (depth : Nat) :
    (rounds : Nat) → (first : Bool) → (seen : List String) → σ → Reader σ
  | 0, _, _, _, _ => failAt .endInObject []
  | rounds + 1, first, seen, record, bs =>
    match nextKey first bs with
    | .error fault => .error fault
    | .ok (none, bs) =>
      match shape.missing? seen with
      | some m => failBefore (.missingField m.name) bs
      | none => .ok (record, bs.drop 1)
    | .ok (some key, bs) =>
      match shape.find? key with
      | some m =>
        if seen.contains key then failBefore (.duplicateField key) bs
        else
          match passColon bs with
          | .error fault => .error fault
          | .ok bs =>
            match m.read depth bs with
            | .error fault => .error fault
            | .ok (set, bs) => readObject depth rounds false (key :: seen) (set record) bs
      | none =>
        match passColon bs with
        | .error fault => .error fault
        | .ok bs =>
          match skipValue bs with
          | .error fault => .error fault
          | .ok bs => readObject depth rounds false seen record bs

/-- Reads a record in either form. -/
def decoder : Decoder σ := fun depth bs =>
  match skipSpace bs with
  | [] => failAt .endInValue []
  | b :: rest =>
    if b = Ascii.openBracket then
      match depth with
      | 0 => failAt .tooDeep (b :: rest)
      | depth + 1 => shape.readList depth shape.members 0 shape.blank rest
    else if b = Ascii.openBrace then
      match depth with
      | 0 => failAt .tooDeep (b :: rest)
      | depth + 1 => shape.readObject depth (rest.length + 1) true [] shape.blank rest
    else mismatch ("struct " ++ shape.name) (b :: rest)

end Shape

/-- A member that an object must have; `set` puts its value into a record. -/
def mustHave {σ α : Type} (name : String) (d : Decoder α) (set : σ → α → σ) : Member σ :=
  ⟨name, true, d.map fun a record => set record a⟩

/-- A member that an object may lack; `set` puts its value into a record. -/
def mayHave {σ α : Type} (name : String) (d : Decoder α) (set : σ → α → σ) : Member σ :=
  ⟨name, false, d.map fun a record => set record a⟩

end ChainView.Json
