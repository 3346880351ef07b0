import AccessCatalog.Catalog.Fault
import AccessCatalog.Json.Bytes
import AccessCatalog.Json.Writer
import AccessCatalog.Text.Base64

/-! The stack of listings a caller is in the middle of. The active listing is advanced in place
and, once it has no further page, gives way to the one suspended last. No resource type is listed
twice at the same time. The whole stack travels to the caller and back as one opaque token. -/
namespace AccessCatalog

/-- One listing: what it lists, the cursor of its next page, and the resource it is limited to. -/
structure PageState where
  resourceType : String
  cursor : String := ""
  resourceId : String := ""
  deriving DecidableEq, Repr

namespace PageState

def decode? (v : Json) : Option PageState := do
  match ← v.fields? [["type"], ["token"], ["id"]] with
  | [resourceType, cursor, resourceId] =>
    some {
      resourceType := ← Json.required Json.str? resourceType
      cursor := ← Json.orElse Json.str? "" cursor
      resourceId := ← Json.orElse Json.str? "" resourceId }
  | _ => none

def encode (s : PageState) : Json :=
  Json.record [Json.entry "type" (.str s.resourceType),
    Json.entryUnless s.cursor.isEmpty "token" (.str s.cursor),
    Json.entryUnless s.resourceId.isEmpty "id" (.str s.resourceId)]

end PageState

/-- The active listing and the suspended ones, the one to resume first in front. -/
structure Bag where
  suspended : List PageState := []
  active : Option PageState := none
  deriving DecidableEq, Repr

namespace Bag

def empty : Bag := {}

/-- Every listing, the oldest first and the active one last. -/
def states (b : Bag) : List PageState := b.suspended.reverse ++ b.active.toList

def isExhausted (b : Bag) : Bool := b.active.isNone
def resourceType (b : Bag) : String := (b.active.map (·.resourceType)).getD ""
def cursor (b : Bag) : String := (b.active.map (·.cursor)).getD ""

/-- Makes a listing the active one, unless its resource type is being listed already. -/
def push (b : Bag) (s : PageState) : Except Fault Bag :=
  if b.states.any fun t => t.resourceType = s.resourceType then
    .error (.invalidToken ("frame for resource type '" ++ s.resourceType ++ "' already active"))
  else .ok ⟨b.active.toList ++ b.suspended, some s⟩

/-- Ends the active listing. -/
def pop (b : Bag) : Bag := ⟨b.suspended.tail, b.suspended.head?⟩

/-- Moves the active listing to its next page, or ends it when there is none. -/
def next (b : Bag) (cursor : String) : Except Fault Bag :=
  match b.active with
  | none => .error (.invalidToken "no active page state")
  | some s => .ok (if cursor.isEmpty then b.pop else { b with active := some { s with cursor } })

/-- Pushes fresh listings, the last one in the list first, up to one that is refused. -/
def pushAll (b : Bag) : List String → Bag × Except Fault Unit
  | [] => (b, .ok ())
  | phase :: rest =>
    match b.push { resourceType := phase } with
    | .ok b => b.pushAll rest
    | .error fault => (b, .error fault)

/-- Starts listings that are drained in the order of the list. -/
def seed (b : Bag) (phases : List String) : Bag × Except Fault Unit := b.pushAll phases.reverse

def decode? (v : Json) : Option Bag := do
  match ← v.fields? [["states"], ["current"]] with
  | [states, current] =>
    let states ← Json.orElse (Json.list? PageState.decode?) [] states
    let current ← Json.orElse (Json.optional? PageState.decode?) none current
    some ⟨states.reverse, current⟩
  | _ => none

def encode (b : Bag) : Json :=
  Json.record [
    Json.entryUnless b.suspended.isEmpty "states" (.arr (b.suspended.reverse.map PageState.encode)),
    b.active.map fun s => ("current", s.encode)]

/-- The first name that stands in a list for the second time. -/
def firstRepeated? (seen : List String) : List String → Option String
  | [] => none
  | name :: rest => if seen.contains name then some name else firstRepeated? (name :: seen) rest

/-- The bag that a token stands for; the empty token is the empty bag. -/
def ofToken (token : String) : Except Fault Bag :=
  if token.isEmpty then .ok empty
  else match Text.Base64.decode? token with
    | none => .error (.invalidToken "not base64: bad character, length or last bits")
    | some bytes =>
      match (Json.readBytes? bytes).bind decode? with
      | none => .error (.invalidToken "bad page state: not the text of a bag")
      | some b =>
        match firstRepeated? [] (b.states.map (·.resourceType)) with
        | some name =>
          .error (.invalidToken ("duplicate frame for resource type '" ++ name ++ "'"))
        | none => .ok b

/-- The bag that a token stands for, starting with a first listing when none is active. -/
def resume (token : String) (first : PageState) : Except Fault Bag := do
  let b ← ofToken token
  if b.isExhausted then b.push first else .ok b

/-- The token of a bag; a bag without an active listing has the empty one. -/
def token (b : Bag) : String :=
  if b.isExhausted then "" else Text.Base64.encode (Text.utf8 b.encode.write)

end Bag
end AccessCatalog
