import AccessCatalog.Json.Decode
import AccessCatalog.Numeric.Binary64

/-! Profiles: the attributes of a resource, under any keys and in key order. A value is typed at
the top and inside lists; an object under a key is kept as it is. -/
namespace AccessCatalog

open Numeric (Binary64)

inductive ProfileValue where
  | null
  | bool (value : Bool)
  /-- A signed integer of 64 bits. -/
  | int (value : Int)
  | float (value : Binary64)
  | text (value : String)
  | list (items : List ProfileValue)
  | object (entries : List (String × Json))
  deriving Repr, Inhabited

namespace ProfileValue

def isNull : ProfileValue → Bool
  | .null => true
  | _ => false

def text? : ProfileValue → Option String
  | .text s => some s
  | _ => none

def bool? : ProfileValue → Option Bool
  | .bool b => some b
  | _ => none

/-- A float without a fraction counts as an integer. -/
def int? : ProfileValue → Option Int
  | .int i => some i
  | .float x => x.toInt?
  | _ => none

def ofNumber : Number → ProfileValue
  | .int i => if Numeric.fitsInt64 i then .int i else .float (Binary64.ofInt i)
  | .float x => .float x

mutual

def ofJson : Json → ProfileValue
  | .null => .null
  | .bool b => .bool b
  | .num n => ofNumber n
  | .str s => .text s
  | .arr items => .list (ofJsonItems items)
  | .obj entries => .object entries
  | .unreadable => .null

def ofJsonItems : List Json → List ProfileValue
  | [] => []
  | v :: rest => ofJson v :: ofJsonItems rest

end

mutual

/-- The document of a value; a float that is no number has none. -/
def toJson : ProfileValue → Json
  | .null => .null
  | .bool b => .bool b
  | .int i => .int i
  | .float x => if x.isFinite then .num (.float x) else .null
  | .text s => .str s
  | .list items => .arr (toJsonItems items)
  | .object entries => .obj entries

def toJsonItems : List ProfileValue → List Json
  | [] => []
  | v :: rest => v.toJson :: toJsonItems rest

end

mutual

/-- What a value is serialised as, which says nothing of its kind. -/
def encode : ProfileValue → Json
  | .null => .null
  | .bool b => .bool b
  | .int i => .num (.int i)
  | .float x => if x.isFinite then .num (.float x) else .null
  | .text s => .str s
  | .list items => .arr (encodeItems items)
  | .object entries => .obj entries

def encodeItems : List ProfileValue → List Json
  | [] => []
  | v :: rest => v.encode :: encodeItems rest

end

inductive Kind where
  | null
  | bool
  | int
  | float
  | text
  | list
  | object
  deriving DecidableEq, Repr

def kind : ProfileValue → Kind
  | .null => .null
  | .bool _ => .bool
  | .int _ => .int
  | .float _ => .float
  | .text _ => .text
  | .list _ => .list
  | .object _ => .object

namespace Kind

/-- The kinds in the order in which a document is tried as one of them. -/
def all : List Kind := [.null, .bool, .int, .float, .text, .list, .object]

/-- The value of a kind that a document stands for, if it does. An integer is a float too. The items
of an array are read beforehand. -/
def take? (items : Option (List ProfileValue)) : Kind → Json → Option ProfileValue
  | .null, .null => some .null
  | .null, _ => none
  | .bool, v => (Json.bool? v).map .bool
  | .int, v => (Json.int64? v).map .int
  | .float, .num (.int i) => some (.float (Binary64.ofInt i))
  | .float, .num (.float x) => some (.float x)
  | .float, _ => none
  | .text, v => (Json.str? v).map .text
  | .list, .arr _ => items.map .list
  | .list, _ => none
  | .object, .obj entries => (Json.entryValues? entries).map fun es => .object (Keyed.ofList es)
  | .object, _ => none

/-- The value of the first kind that takes a document. -/
def first? (items : Option (List ProfileValue)) (v : Json) : Option ProfileValue :=
  all.findSome? (·.take? items v)

end Kind

mutual

/-- Reads a value from a document, as the first kind that takes it. -/
def decode? : Json → Option ProfileValue
  | .arr items => Kind.first? (decodeItems? items) (.arr items)
  | v => Kind.first? none v

def decodeItems? : List Json → Option (List ProfileValue)
  | [] => some []
  | v :: rest => do
    let v ← decode? v
    let rest ← decodeItems? rest
    some (v :: rest)

end

end ProfileValue

structure Profile where
  entries : List (String × ProfileValue)
  ordered : Keyed.Ordered entries := by exact List.Pairwise.nil

namespace Profile

def empty : Profile := { entries := [] }

instance : Inhabited Profile := ⟨empty⟩

def ofEntries (entries : List (String × ProfileValue)) : Profile :=
  ⟨Keyed.ofList entries, Keyed.Ordered.ofList entries⟩

/-- The attributes of a JSON object; any other value has none. -/
def ofJson : Json → Profile
  | .obj entries => ofEntries (entries.map fun e => (e.1, ProfileValue.ofJson e.2))
  | _ => empty

def toJson (p : Profile) : Json :=
  .obj (Keyed.ofList (p.entries.map fun e => (e.1, e.2.toJson)))

def set (p : Profile) (key : String) (value : ProfileValue) : Profile :=
  ⟨Keyed.insert key value p.entries, p.ordered.insert key value⟩

def remove (p : Profile) (key : String) : Profile :=
  ⟨Keyed.erase key p.entries, p.ordered.erase key⟩

def get? (p : Profile) (key : String) : Option ProfileValue := Keyed.get? key p.entries
def text? (p : Profile) (key : String) : Option String := (p.get? key).bind ProfileValue.text?
def int? (p : Profile) (key : String) : Option Int := (p.get? key).bind ProfileValue.int?
def bool? (p : Profile) (key : String) : Option Bool := (p.get? key).bind ProfileValue.bool?
def contains (p : Profile) (key : String) : Bool := (p.get? key).isSome

/-- Reads the entries of an object, of which the last of each key counts. -/
def decode? : Json → Option Profile
  | .obj entries =>
    (entries.mapM fun e => (ProfileValue.decode? e.2).map fun v => (e.1, v)).map ofEntries
  | _ => none

def encode (p : Profile) : Json := .obj (p.entries.map fun e => (e.1, e.2.encode))

end Profile
end AccessCatalog
