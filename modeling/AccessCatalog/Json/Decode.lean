import AccessCatalog.Keyed
import AccessCatalog.Json.Basic

/-! Reading records and tagged values from documents. A record is an object, its unknown keys
passed over and its known ones written once, or the array of its fields in order. A tagged value
is an object with a tag among its entries, or an array whose first item is the tag. -/
namespace AccessCatalog.Json

mutual

/-- The value of a document: the last entry of each key, in key order; none when a part of it
has no value. -/
def value? : Json → Option Json
  | .unreadable => none
  | .arr items => (values? items).map .arr
  | .obj entries => (entryValues? entries).map fun es => .obj (Keyed.ofList es)
  | v => some v

def values? : List Json → Option (List Json)
  | [] => some []
  | v :: rest => do
    let v ← value? v
    let rest ← values? rest
    some (v :: rest)

def entryValues? : List (String × Json) → Option (List (String × Json))
  | [] => some []
  | (k, v) :: rest => do
    let v ← value? v
    let rest ← entryValues? rest
    some ((k, v) :: rest)

end

def isReadable (v : Json) : Bool := v.value?.isSome

def bool? : Json → Option Bool
  | .bool b => some b
  | _ => none

def str? : Json → Option String
  | .str s => some s
  | _ => none

def intIn? (low high : Int) : Json → Option Int
  | .num (.int i) => if low ≤ i ∧ i ≤ high then some i else none
  | _ => none

def int64? : Json → Option Int := intIn? Numeric.minInt64 Numeric.maxInt64
def natBelow? (limit : Nat) (v : Json) : Option Nat := (intIn? 0 (limit - 1) v).map Int.toNat
def nat64? : Json → Option Nat := natBelow? Numeric.wordCount64

def list? {α : Type} (item : Json → Option α) : Json → Option (List α)
  | .arr items => items.mapM item
  | _ => none

/-- Null stands for a value left out. -/
def optional? {α : Type} (f : Json → Option α) : Json → Option (Option α)
  | .null => some none
  | v => (f v).map some

/-- The name of a constant: text, or an object with the name as its only key and nothing under
it. Inside a tagged value an empty object is nothing too. -/
def constant? (inTagged : Bool) : Json → Option String
  | .str s => some s
  | .obj [(name, .null)] => some name
  | .obj [(name, .obj [])] => if inTagged then some name else none
  | _ => none

/-- The fields of a record under the names each may have; none for a field left out. -/
def fields? (names : List (List String)) : Json → Option (List (Option Json))
  | .obj entries => names.mapM fun spellings =>
    match entries.filter fun e => spellings.contains e.1 with
    | [] => some none
    | [e] => some (some e.2)
    | _ => none
  | .arr items =>
    if items.length ≤ names.length then
      some (items.map some ++ List.replicate (names.length - items.length) none)
    else none
  | _ => none

/-- A field that must be there. -/
def required {α : Type} (f : Json → Option α) (field : Option Json) : Option α := field.bind f

/-- A field with the value it has when it is left out. -/
def orElse {α : Type} (f : Json → Option α) (default : α) : Option Json → Option α
  | none => some default
  | some v => f v

/-- The tag of a tagged value, and the rest of it. -/
def tagged? (tag : String) : Json → Option (String × Json)
  | .obj entries =>
    match entries.filter fun e => e.1 = tag with
    | [(_, .str name)] =>
      let rest := Json.obj (entries.filter fun e => e.1 ≠ tag)
      if rest.isReadable then some (name, rest) else none
    | _ => none
  | .arr (.str name :: rest) =>
    if (Json.arr rest).isReadable then some (name, .arr rest) else none
  | _ => none

/-- The rest of a tagged value that has no fields: entries are passed over, items are refused. -/
def noFields? : Json → Option Unit
  | .obj _ => some ()
  | .arr [] => some ()
  | _ => none

/-- An object of the entries that are there. -/
def record (entries : List (Option (String × Json))) : Json := .obj (entries.filterMap id)

def entry (key : String) (value : Json) : Option (String × Json) := some (key, value)

/-- An entry left out when there is nothing to write. -/
def entryUnless (omitted : Bool) (key : String) (value : Json) : Option (String × Json) :=
  if omitted then none else some (key, value)

def strings (items : List String) : Json := .arr (items.map .str)

end AccessCatalog.Json
