import AccessCatalog.Text.Blank
import AccessCatalog.Web.Exchange

/-! Links to the next page. The `Link` headers hold entries of an address in angle brackets and a
relation; the first entry for the next page names it, and the cursor is what that address has
first under `after` in its query. -/
namespace AccessCatalog.Web

/-- Without one character at each end, when the first and the last are these. -/
def unwrap? (first last : Char) (cs : List Char) : Option (List Char) :=
  match cs with
  | c :: rest =>
    if c = first ∧ rest.getLast? = some last then some rest.dropLast else none
  | [] => none

def stripFront? (front cs : List Char) : Option (List Char) :=
  if cs.take front.length = front then some (cs.drop front.length) else none

structure LinkEntry where
  target : List Char
  relation : List Char
  deriving DecidableEq, Repr

def LinkEntry.parse? (entry : List Char) : Option LinkEntry := do
  let trim := Text.trimBoth Text.isBlank
  match Form.splitAt ';' entry with
  | target :: parameters =>
    let target ← unwrap? '<' '>' (trim target)
    let relations := parameters.filterMap fun p => stripFront? "rel=".toList (trim p)
    let relation ← relations.head?
    some ⟨target, Text.trimBoth (· == '"') relation⟩
  | [] => none

/-- The address that relative links are taken from. -/
def linkBase : Url :=
  { scheme := "https".toList, host := some (.name "localhost".toList), path := .segments [[]] }

/-- The first `after` of a link's query, unless it is empty. -/
def afterParam? (href : List Char) : Option String :=
  match Url.parse (some linkBase) href with
  | .ok url =>
    ((url.queryPairs.find? fun p => p.1 = "after").map (·.2)).filter fun v => !v.isEmpty
  | .error _ => none

/-- The cursor of the next page, empty when there is none. -/
def nextCursor (headers : Headers) : String :=
  let values := (headers.values "link").filter Headers.isReadable
  let entries := (values.flatMap fun v => Form.splitAt ',' v.toList).filterMap LinkEntry.parse?
  match entries.find? fun e => e.relation = "next".toList with
  | some e => (afterParam? e.target).getD ""
  | none => ""

end AccessCatalog.Web
