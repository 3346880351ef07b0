import AccessCatalog.Json.Token

/-! Reading a document. The tokens drive a machine whose stack holds the containers that are
still open; the document is read when the stack is empty and no token is left. -/
namespace AccessCatalog.Json

/-- An open container with what it already holds, last first; an object waits for the value of
a key, which is none when the key is not text. -/
inductive Frame where
  | array (items : List Json)
  | object (entries : List (Option String × Json)) (key : Option String)

/-- What may come next. -/
inductive State where
  | value (stack : List Frame)
  | firstItem (stack : List Frame)
  | firstKey (stack : List Frame)
  | nextKey (entries : List (Option String × Json)) (stack : List Frame)
  | colon (entries : List (Option String × Json)) (key : Option String) (stack : List Frame)
  | after (value : Json) (stack : List Frame)

/-- A container closed inside `stack`, without a value when it is nested too deep. -/
def closeIn (stack : List Frame) (value : Json) : Json :=
  if stack.length < maxDepth then value else .unreadable

/-- An object has a value only if each of its keys is text. -/
def objectOf (entries : List (Option String × Json)) : Json :=
  match entries.mapM fun e => e.1.map (·, e.2) with
  | some entries => .obj entries
  | none => .unreadable

def State.startValue (stack : List Frame) : Token → Option State
  | .openArray => some (.firstItem stack)
  | .openObject => some (.firstKey stack)
  | .scalar v => some (.after v stack)
  | .text (some s) => some (.after (.str s) stack)
  | .text none => some (.after .unreadable stack)
  | _ => none

def State.step : State → Token → Option State
  | .value stack, t => startValue stack t
  | .firstItem stack, .closeArray => some (.after (closeIn stack (.arr [])) stack)
  | .firstItem stack, t => startValue (.array [] :: stack) t
  | .firstKey stack, .closeObject => some (.after (closeIn stack (.obj [])) stack)
  | .firstKey stack, .text key => some (.colon [] key stack)
  | .nextKey entries stack, .text key => some (.colon entries key stack)
  | .colon entries key stack, .colon => some (.value (.object entries key :: stack))
  | .after v (.array items :: stack), .comma => some (.value (.array (v :: items) :: stack))
  | .after v (.array items :: stack), .closeArray =>
    some (.after (closeIn stack (.arr (v :: items).reverse)) stack)
  | .after v (.object entries key :: stack), .comma => some (.nextKey ((key, v) :: entries) stack)
  | .after v (.object entries key :: stack), .closeObject =>
    some (.after (closeIn stack (objectOf ((key, v) :: entries).reverse)) stack)
  | _, _ => none

def State.run (s : State) (tokens : List Token) : Option State := tokens.foldlM State.step s

/-- The document that the text is. -/
def read? (text : List Char) : Option Json := do
  let tokens ← tokens? text
  match ← (State.value []).run tokens with
  | .after v [] => some v
  | _ => none

def parse? (text : String) : Option Json := read? text.toList

end AccessCatalog.Json
