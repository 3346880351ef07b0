import AccessCatalog.Web.Percent

/-! Form encoding of the pairs of a query: pairs are joined by ampersands, a name and its value by
an equals sign, and a plus sign stands for a space. -/
namespace AccessCatalog.Web.Form

def isPlain (c : Char) : Bool :=
  c.isAlphanum || c == '*' || c == '-' || c == '.' || c == '_'

def encodeChar (c : Char) : List Char := if c = ' ' then ['+'] else percentChar isPlain c

def encodeText (s : String) : List Char := s.toList.flatMap encodeChar

def encodePair (pair : String × String) : List Char :=
  encodeText pair.1 ++ '=' :: encodeText pair.2

def append (query : List Char) (pairs : List (String × String)) : List Char :=
  pairs.foldl
    (fun query pair => (if query.isEmpty then [] else query ++ ['&']) ++ encodePair pair) query

def decodeText (bytes : List UInt8) : String :=
  String.ofList (Text.ofUtf8Lossy (percentDecode (bytes.map fun b => if b = 43 then 32 else b)))

def splitAt {α : Type} [BEq α] (mark : α) : List α → List (List α)
  | [] => [[]]
  | x :: rest =>
    if x == mark then [] :: splitAt mark rest
    else match splitAt mark rest with
      | piece :: pieces => (x :: piece) :: pieces
      | [] => [[x]]

/-- A pair ends its name at the first equals sign; without one its value is empty. -/
def decodePair (bytes : List UInt8) : String × String :=
  (decodeText (bytes.takeWhile (· != 61)), decodeText ((bytes.dropWhile (· != 61)).drop 1))

/-- The pairs of a query; empty pieces are none. -/
def decode (query : List Char) : List (String × String) :=
  ((splitAt 38 (Text.utf8 query)).filter fun piece => !piece.isEmpty).map decodePair

end AccessCatalog.Web.Form
