import AccessCatalog.Web.Url

/-! Requests to a service and what comes back. A service answers as a function of the request and
of a state of its own. -/
namespace AccessCatalog.Web

inductive Method where
  | get
  | post
  | put
  | delete
  deriving DecidableEq, Repr

def Method.name : Method → String
  | .get => "GET"
  | .post => "POST"
  | .put => "PUT"
  | .delete => "DELETE"

/-- Headers in the order they came in; their names do not distinguish case. -/
abbrev Headers := List (String × String)

namespace Headers

def sameName (a b : String) : Bool := a.toList.map Char.toLower == b.toList.map Char.toLower

def values (hs : Headers) (name : String) : List String :=
  (hs.filter fun h => sameName h.1 name).map (·.2)

/-- Whether a text may stand as a name: letters, digits and some signs. -/
def isName (s : String) : Bool :=
  !s.isEmpty && s.toList.all fun c =>
    c.isAlphanum || "!#$%&\x27*+-.^_\x60|~".toList.contains c

/-- The characters that a value may have, so that it stays on its line. -/
def isValueChar (c : Char) : Bool := c == '\t' || (' ' ≤ c && c != '\x7f')
def isValue (s : String) : Bool := s.toList.all isValueChar

/-- Whether a value can be read as text: blanks and the visible characters of ASCII. -/
def isReadable (s : String) : Bool := s.toList.all fun c => c == '\t' || (' ' ≤ c && c < '\x7f')

end Headers

structure Request where
  method : Method
  url : Url
  headers : Headers
  /-- The text of a JSON document. -/
  body : Option String := none
  deriving DecidableEq

structure Response where
  status : Nat
  headers : Headers := []
  body : String := ""
  deriving DecidableEq, Repr

inductive Reply where
  | response (r : Response)
  /-- The request arrived, but the connection closed without a response. -/
  | dropped
  /-- The request did not arrive. -/
  | unreachable
  deriving DecidableEq, Repr

/-- How a service answers requests. -/
abbrev Service (σ : Type) := Request → σ → Reply × σ

end AccessCatalog.Web
