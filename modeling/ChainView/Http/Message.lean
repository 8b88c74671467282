import ChainView.Text.Ascii

/-!
# Requests and responses over HTTP

What the gateway sees of a request and what it sends back, and the grammar of the tokens and values
that headers are made of.
-/

namespace ChainView.Http

/-- A header: its name in lowercase, and its value. -/
abbrev Field := String × String

/-- The marks that the name of a scheme may contain beside letters and digits. -/
def schemeMarks : List Char := ['+', '-', '.', '~']

/-- What a target in the absolute form says behind the scheme and the authority. -/
def relative? (target : List Char) : Option (List Char) :=
  match target.dropWhile fun c => c.isAlphanum || schemeMarks.contains c with
  | ':' :: '/' :: '/' :: rest => some (rest.dropWhile fun c => c ≠ '/' && c ≠ '?' && c ≠ '#')
  | _ => none

/-- What stands before the query and the fragment. -/
def beforeQuery (target : List Char) : List Char :=
  target.takeWhile fun c => c ≠ '?' && c ≠ '#'

/-- A request. -/
structure Request where
  /-- The method. -/
  method : String
  /-- The path, with the query and the fragment where there are any; in the absolute form, behind a
  scheme and an authority. -/
  target : String
  /-- The headers. -/
  headers : List Field
  /-- The body. -/
  body : Bytes

/-- A response. -/
structure Response where
  /-- The status code. -/
  status : Nat
  /-- The headers. -/
  headers : List Field
  /-- The body. -/
  body : Bytes

namespace Request

/-- The path without the query and the fragment.  In the absolute form there may be none behind the
authority, which asks for the root. -/
def path (r : Request) : String :=
  match relative? r.target.toList with
  | none => String.ofList (beforeQuery r.target.toList)
  | some rest => if beforeQuery rest = [] then "/" else String.ofList (beforeQuery rest)

/-- The value of the first header of a name, which is given in lowercase. -/
def header? (r : Request) (name : String) : Option String :=
  (r.headers.find? fun h => Ascii.lowercase h.1 = name).map Prod.snd

end Request

/-- The marks that a token may contain beside letters and digits. -/
def tokenMarks : List Char :=
  ['!', '#', '$', '%', '&', '\x27', '*', '+', '-', '.', '^', '_', '\x60', '|', '~']

/-- Whether a text is a token, the form of methods and of the names of headers. -/
def isToken (s : String) : Bool :=
  !s.isEmpty && s.toList.all fun c => c.isAlphanum || tokenMarks.contains c

/-- Whether a text may be the value of a header: it has no ASCII control characters but tabs. -/
def isFieldValue (s : String) : Bool :=
  s.toList.all fun c => (0x20 ≤ c.toNat && c.toNat ≠ 0x7F) || c.toNat = 9

end ChainView.Http
