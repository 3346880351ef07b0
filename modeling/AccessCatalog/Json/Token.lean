import AccessCatalog.Json.Number

/-! Tokens of JSON text, found by an automaton that takes one character at a time. Two adjacent
numbers or words never occur in a document, so a run of their characters is one token. -/
namespace AccessCatalog.Json

inductive Token where
  | openArray
  | closeArray
  | openObject
  | closeObject
  | comma
  | colon
  /-- A literal or a number. -/
  | scalar (value : Json)
  /-- A string; none when it holds a lone surrogate. -/
  | text (value : Option String)
  deriving Repr

/-- A piece of a string: a character as written, or the 16-bit unit of an escape. -/
inductive Piece where
  | char (c : Char)
  | unit (u : Nat)
  deriving Repr

def isHighSurrogate (u : Nat) : Bool := decide (0xD800 ≤ u ∧ u < 0xDC00)
def isLowSurrogate (u : Nat) : Bool := decide (0xDC00 ≤ u ∧ u < 0xE000)

/-- Joins the units of surrogate pairs; none when one stands alone. -/
def joinPieces : List Piece → Option (List Char)
  | [] => some []
  | .char c :: rest => (joinPieces rest).map (c :: ·)
  | .unit high :: .unit low :: rest =>
    if isHighSurrogate high then
      if isLowSurrogate low then
        (joinPieces rest).map
          (Char.ofNat (0x10000 + (high - 0xD800) * 0x400 + (low - 0xDC00)) :: ·)
      else none
    else if isLowSurrogate high then none
    else (joinPieces (.unit low :: rest)).map (Char.ofNat high :: ·)
  | .unit u :: rest =>
    if isHighSurrogate u || isLowSurrogate u then none
    else (joinPieces rest).map (Char.ofNat u :: ·)

/-- What the automaton is inside of; the pieces read so far are held last first. -/
inductive Mode where
  | between
  | word (letters : List Char)
  | number (chars : List Char)
  | text (pieces : List Piece)
  | escape (pieces : List Piece)
  | hex (pieces : List Piece) (count value : Nat)
  deriving Repr

def hexDigit? (c : Char) : Option Nat :=
  if '0' ≤ c ∧ c ≤ '9' then some (c.toNat - 48)
  else if 'a' ≤ c ∧ c ≤ 'f' then some (c.toNat - 87)
  else if 'A' ≤ c ∧ c ≤ 'F' then some (c.toNat - 55)
  else none

def isNumberChar (c : Char) : Bool :=
  c.isDigit || c == '-' || c == '+' || c == '.' || c == 'e' || c == 'E'

def wordToken? : List Char → Option Token
  | ['n', 'u', 'l', 'l'] => some (.scalar .null)
  | ['t', 'r', 'u', 'e'] => some (.scalar (.bool true))
  | ['f', 'a', 'l', 's', 'e'] => some (.scalar (.bool false))
  | _ => none

def numberToken? (chars : List Char) : Option Token :=
  (Numeral.scan? chars).map fun n =>
    .scalar (match n.value? with
      | some v => .num v
      | none => .unreadable)

def textToken (pieces : List Piece) : Token :=
  .text ((joinPieces pieces.reverse).map String.ofList)

def startToken (c : Char) : Option (List Token × Mode) :=
  if c = ' ' ∨ c = '\t' ∨ c = '\n' ∨ c = '\r' then some ([], .between)
  else if c = '[' then some ([.openArray], .between)
  else if c = ']' then some ([.closeArray], .between)
  else if c = '\x7b' then some ([.openObject], .between)
  else if c = '\x7d' then some ([.closeObject], .between)
  else if c = ',' then some ([.comma], .between)
  else if c = ':' then some ([.colon], .between)
  else if c = '"' then some ([], .text [])
  else if c.isDigit ∨ c = '-' then some ([], .number [c])
  else if 'a' ≤ c ∧ c ≤ 'z' then some ([], .word [c])
  else none

def escaped? : Char → Option Char
  | '"' => some '"'
  | '\\' => some '\\'
  | '/' => some '/'
  | 'b' => some '\x08'
  | 'f' => some '\x0c'
  | 'n' => some '\n'
  | 'r' => some '\r'
  | 't' => some '\t'
  | _ => none

def Mode.step : Mode → Char → Option (List Token × Mode)
  | .between, c => startToken c
  | .word letters, c =>
    if 'a' ≤ c ∧ c ≤ 'z' then some ([], .word (c :: letters))
    else do
      let token ← wordToken? letters.reverse
      let (tokens, mode) ← startToken c
      some (token :: tokens, mode)
  | .number chars, c =>
    if isNumberChar c then some ([], .number (c :: chars))
    else do
      let token ← numberToken? chars.reverse
      let (tokens, mode) ← startToken c
      some (token :: tokens, mode)
  | .text pieces, c =>
    if c = '"' then some ([textToken pieces], .between)
    else if c = '\\' then some ([], .escape pieces)
    else if c < ' ' then none
    else some ([], .text (.char c :: pieces))
  | .escape pieces, c =>
    if c = 'u' then some ([], .hex pieces 0 0)
    else (escaped? c).map fun e => ([], .text (.char e :: pieces))
  | .hex pieces count value, c => do
    let d ← hexDigit? c
    if count = 3 then some ([], .text (.unit (value * 16 + d) :: pieces))
    else some ([], .hex pieces (count + 1) (value * 16 + d))

/-- What the end of the text completes. -/
def Mode.finish : Mode → Option (List Token)
  | .between => some []
  | .word letters => (wordToken? letters.reverse).map ([·])
  | .number chars => (numberToken? chars.reverse).map ([·])
  | _ => none

def Mode.run : Mode → List Char → Option (List Token)
  | mode, [] => mode.finish
  | mode, c :: cs => do
    let (tokens, mode) ← mode.step c
    let rest ← mode.run cs
    some (tokens ++ rest)

def tokens? (cs : List Char) : Option (List Token) := Mode.between.run cs

end AccessCatalog.Json
