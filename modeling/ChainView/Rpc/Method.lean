import ChainView.Rpc.Envelope
import ChainView.Digest

/-!
# Methods

A method has a name, the kinds of its parameters, a description and a handler.  The kinds are
checked before the handler runs, and the accessors by which a handler reads its parameters agree
with them.  A registry holds the methods by name; a name can be taken only once.
-/

namespace ChainView.Rpc

/-- The kinds of parameters. -/
inductive ParameterKind where
  /-- An integer that fits an unsigned 64-bit word. -/
  | word
  /-- The text of a digest. -/
  | digest
  deriving DecidableEq

namespace ParameterKind

/-- Whether a value is of the kind. -/
def accepts : ParameterKind → Json.Value → Bool
  | .word, v => v.word?.isSome
  | .digest, v =>
    match v.string? with
    | some s => (Digest.ofHex s).isOk
    | none => false

/-- The kind in messages. -/
def label : ParameterKind → String
  | .word => "u64"
  | .digest => "32-byte hex"

/-- The kind in the log. -/
def tag : ParameterKind → String
  | .word => "U64"
  | .digest => "Buf32"

end ParameterKind

/-- The parameters of a call by position. -/
abbrev Parameters := List Json.Value

namespace Parameters

/-- The parameter at a position as an unsigned word. -/
def word (ps : Parameters) (index : Nat) : Except Failure UInt64 :=
  match ps[index]?.bind Json.Value.word? with
  | some n => .ok n
  | none =>
    .error (.unfit ("parameter " ++ toString index ++ " must be a non-negative integer"))

/-- The parameter at a position as a digest. -/
def digest (ps : Parameters) (index : Nat) : Except Failure Digest :=
  match ps[index]?.bind Json.Value.string? with
  | none => .error (.unfit ("parameter " ++ toString index ++ " must be a hex string"))
  | some s =>
    match Digest.ofHex s with
    | .ok d => .ok d
    | .error refusal =>
      .error (.unfit ("parameter " ++ toString index ++ ": " ++ refusal.message))

end Parameters

/-- What a handler leaves behind when it breaks off. -/
inductive Crash where
  /-- A message. -/
  | message (text : String)
  /-- Something else. -/
  | other
  deriving DecidableEq

/-- What comes of running a handler. -/
inductive Outcome where
  /-- It returns a value. -/
  | value (v : Json.Value)
  /-- It fails. -/
  | failed (e : Failure)
  /-- It breaks off. -/
  | crashed (c : Crash)

namespace Outcome

/-- The outcome of a computation that returns or fails. -/
def ofExcept : Except Failure Json.Value → Outcome
  | .ok v => .value v
  | .error e => .failed e

/-- What a client learns of an outcome. -/
def answer : Outcome → Except ErrorObject Json.Value
  | .value v => .ok v
  | .failed e => .error e.toErrorObject
  | .crashed _ => .error .internal

/-- Whether the handler broke off. -/
def isCrash : Outcome → Bool
  | .crashed _ => true
  | _ => false

end Outcome

/-- How parameters fail to fit a method. -/
inductive Mismatch where
  /-- There are too few or too many. -/
  | count (method : String) (expected found : Nat)
  /-- One is of another kind. -/
  | kind (index : Nat) (expected : ParameterKind)
  deriving DecidableEq

/-- The wording of a mismatch. -/
def Mismatch.message : Mismatch → String
  | .count method expected found =>
    method ++ " expects " ++ toString expected ++ " parameter(s), got " ++ toString found
  | .kind index expected => "parameter " ++ toString index ++ " must be " ++ expected.label

/-- A method whose handler reads a context of type `γ`. -/
structure Method (γ : Type) where
  /-- Its name. -/
  name : String
  /-- The kinds of its parameters by position. -/
  params : List ParameterKind
  /-- What it does. -/
  description : String
  /-- Its handler. -/
  handler : γ → Parameters → Outcome

/-- The first position, counted from `index`, at which a value is not of the kind asked for. -/
def firstMismatch (index : Nat) : List ParameterKind → Parameters → Option (Nat × ParameterKind)
  | kind :: kinds, v :: vs =>
    if kind.accepts v then firstMismatch (index + 1) kinds vs else some (index, kind)
  | _, _ => none

namespace Method

variable {γ : Type}

/-- Checks the number of parameters and the kind of each. -/
def checkParameters (m : Method γ) (ps : Parameters) : Except Mismatch Unit :=
  if ps.length ≠ m.params.length then .error (.count m.name m.params.length ps.length)
  else
    match firstMismatch 0 m.params ps with
    | some (index, kind) => .error (.kind index kind)
    | none => .ok ()

/-- The entry of a method in the catalogue. -/
def describe (m : Method γ) : Json.Value :=
  .object [
    ("description", .string m.description),
    ("name", .string m.name),
    ("params", .array (m.params.map fun k => .string k.label))]

/-- A method in the log. -/
def logText (m : Method γ) : String :=
  "MethodDescriptor \x7b name: " ++ Text.quoted m.name ++ ", params: ["
    ++ ", ".intercalate (m.params.map ParameterKind.tag) ++ "], description: "
    ++ Text.quoted m.description ++ " \x7d"

end Method

/-- The methods that have been registered, the first one first. -/
structure Registry (γ : Type) where
  /-- The methods. -/
  entries : List (Method γ)

namespace Registry

variable {γ : Type}

/-- The registry without methods. -/
def empty : Registry γ := ⟨[]⟩

/-- The method of a name. -/
def find? (r : Registry γ) (name : String) : Option (Method γ) :=
  r.entries.find? fun m => m.name = name

/-- Whether a name is taken. -/
def contains (r : Registry γ) (name : String) : Bool :=
  (r.find? name).isSome

/-- Adds a method, unless its name is taken. -/
def insert? (r : Registry γ) (m : Method γ) : Option (Registry γ) :=
  if r.contains m.name then none else some ⟨r.entries ++ [m]⟩

/-- Adds the methods of a list, those with a name that is taken left out. -/
def insertAll (r : Registry γ) (ms : List (Method γ)) : Registry γ :=
  ms.foldl (fun r m => (r.insert? m).getD r) r

/-- The wording of the refusal to take a name twice. -/
def duplicateMessage (name : String) : String :=
  "method already registered: " ++ name

/-- The methods in the order of their names. -/
def sorted (r : Registry γ) : List (Method γ) :=
  r.entries.mergeSort fun a b => a.name ≤ b.name

/-- The number of methods. -/
def size (r : Registry γ) : Nat :=
  r.entries.length

/-- The catalogue of the methods. -/
def catalogue (r : Registry γ) : Json.Value :=
  .array (r.sorted.map Method.describe)

end Registry

end ChainView.Rpc
