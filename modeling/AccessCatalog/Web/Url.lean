import AccessCatalog.Web.Host

/-! Web addresses. Reading one cuts the text at the first number sign and the first question mark
before it, then takes the scheme, the authority and the path from what is in front. The special
schemes take backslashes for slashes and always have a path and a host. -/
namespace AccessCatalog.Web

inductive Path where
  /-- The path of an address that other addresses cannot be relative to. -/
  | opaqueText (text : List Char)
  | segments (list : List (List Char))
  deriving DecidableEq, Repr

structure Url where
  scheme : List Char
  /-- User name and password, when there are any. -/
  credentials : Option (List Char × List Char) := none
  host : Option Host := none
  /-- None for the number that the scheme has by default. -/
  portNumber : Option Nat := none
  path : Path
  query : Option (List Char) := none
  fragment : Option (List Char) := none
  deriving DecidableEq, Repr

namespace Url

def defaultPort? (scheme : List Char) : Option Nat :=
  match String.ofList scheme with
  | "http" | "ws" => some 80
  | "https" | "wss" => some 443
  | "ftp" => some 21
  | _ => none

def isFile (scheme : List Char) : Bool := scheme == "file".toList

/-- Whether requests for the address go over the web. -/
def isWeb (u : Url) : Bool :=
  (u.scheme == "http".toList || u.scheme == "https".toList) && u.host.isSome

def isSpecial (scheme : List Char) : Bool := (defaultPort? scheme).isSome || isFile scheme

/-! Classes of the characters that stand for themselves. -/

def inControls (c : Char) : Bool := !Host.isControl c
def inFragment (c : Char) : Bool := inControls c && !" \"<>`".toList.contains c
def inPath (c : Char) : Bool := inFragment c && !"#?\x7b\x7d".toList.contains c
def inUserinfo (c : Char) : Bool := inPath c && !"/:;=@[\\]^|".toList.contains c
def inQuery (c : Char) : Bool := inControls c && !" \"#<>".toList.contains c
def inSpecialQuery (c : Char) : Bool := inQuery c && c != '\''

/-- The text without blanks and controls around it, and without tabs and line ends in it. -/
def clean (cs : List Char) : List Char :=
  let outer (c : Char) : Bool := c.toNat ≤ 0x20
  let inner := (cs.dropWhile outer).reverse.dropWhile outer
  inner.reverse.filter fun c => c != '\t' && c != '\n' && c != '\r'

/-- What is before the first place of a mark, and what is after it if there is one. -/
def cut (mark : Char) (cs : List Char) : List Char × Option (List Char) :=
  match cs.dropWhile (· != mark) with
  | [] => (cs, none)
  | _ :: rest => (cs.takeWhile (· != mark), some rest)

def isSchemeChar (c : Char) : Bool := c.isAlphanum || c == '+' || c == '-' || c == '.'

/-- The scheme in small letters, and what follows its colon. -/
def takeScheme? (cs : List Char) : Option (List Char × List Char) :=
  let name := cs.takeWhile isSchemeChar
  match name, cs.dropWhile isSchemeChar with
  | c :: _, ':' :: rest => if c.isAlpha then some (name.map Char.toLower, rest) else none
  | _, _ => none

def isSingleDot (s : List Char) : Bool :=
  s == ['.'] || s.map Char.toLower == "%2e".toList

def isDoubleDot (s : List Char) : Bool :=
  let s := s.map Char.toLower
  s == "..".toList || s == "%2e.".toList || s == ".%2e".toList || s == "%2e%2e".toList

/-- Puts segments behind a directory, following the dots; a dot at the end names a directory. -/
def follow (directory : List (List Char)) : List (List Char) → List (List Char)
  | [] => directory
  | [s] =>
    if isDoubleDot s then directory.dropLast ++ [[]]
    else if isSingleDot s then directory ++ [[]]
    else directory ++ [s]
  | s :: rest =>
    if isDoubleDot s then follow directory.dropLast rest
    else if isSingleDot s then follow directory rest
    else follow (directory ++ [s]) rest

def isSlash (special : Bool) (c : Char) : Bool := c == '/' || (special && c == '\\')

def splitSlashes (special : Bool) (cs : List Char) : List (List Char) :=
  Form.splitAt '/' (cs.map fun c => if isSlash special c then '/' else c)

/-- A path behind a directory, from the text after its first slash. -/
def pathAfter (special : Bool) (directory : List (List Char)) (cs : List Char) : Path :=
  .segments (follow directory ((splitSlashes special cs).map (percentEncode inPath)))

def pathStart (special : Bool) (cs : List Char) : Path :=
  match cs with
  | [] => if special then .segments [[]] else .segments []
  | c :: rest => pathAfter special [] (if isSlash special c then rest else c :: rest)

/-- The user name and password in front of the last at sign, and the rest. An at sign with neither
is passed over, but not when it stands before the end of the authority inside a longer text. -/
def takeCredentials (isLast : Bool) (cs : List Char) :
    Except UrlError (Option (List Char × List Char) × List Char) :=
  let rest := (cs.reverse.takeWhile (· != '@')).reverse
  match cs.take (cs.length - rest.length) with
  | [] => .ok (none, cs)
  | [_] => if rest.isEmpty ∧ !isLast then .error .emptyHost else .ok (none, rest)
  | front =>
    let name := percentEncode inUserinfo (cut ':' front.dropLast).1
    let password := percentEncode inUserinfo ((cut ':' front.dropLast).2.getD [])
    .ok (if name.isEmpty && password.isEmpty then none else some (name, password), rest)

/-- The host, which colons in brackets belong to, and what follows the colon after it. -/
def splitPort (bracket : Bool) : List Char → List Char × Option (List Char)
  | [] => ([], none)
  | c :: rest =>
    if c = ':' ∧ !bracket then ([], some rest)
    else
      let (host, digits) := splitPort (c = '[' ∨ bracket ∧ c ≠ ']') rest
      (c :: host, digits)

/-- The number after the colon, and what follows it: nothing, or a backslash with which the path of
a scheme outside the web begins. -/
def takePort (scheme : List Char) (cs : List Char) : Except UrlError (Option Nat × List Char) :=
  let digits := cs.takeWhile Char.isDigit
  let rest := cs.dropWhile Char.isDigit
  let n := digits.foldl (fun n c => n * 10 + (c.toNat - 48)) 0
  if 65535 < n ∨ (rest.head?.map (· != '\\')).getD false then .error .invalidPort
  else .ok (if digits.isEmpty ∨ defaultPort? scheme = some n then none else some n, rest)

def isDriveLetter (cs : List Char) : Bool :=
  match cs with
  | [c, m] => c.isAlpha && (m == ':' || m == '|')
  | _ => false

/-- The authority after two slashes, with the path behind it. The text is the whole rest of the
address, or ends where a query or a fragment begins. -/
def authority (isWhole : Bool) (scheme : List Char) (cs : List Char) : Except UrlError Url := do
  let special := isSpecial scheme
  let front := cs.takeWhile fun c => !isSlash special c
  let behind := cs.dropWhile fun c => !isSlash special c
  let (credentials, front) ← takeCredentials (isWhole && behind.isEmpty) front
  let (hostText, portText) := splitPort false front
  if hostText.isEmpty then
    if special ∨ portText.isSome ∨ credentials.isSome then .error .emptyHost
    else .ok { scheme, host := some (.name []), path := pathStart special behind }
  else
    let host ← if special then Host.parse hostText else Host.parseOpaque hostText
    let (portNumber, rest) ← takePort scheme (portText.getD [])
    let path := pathStart special (rest ++ behind)
    .ok { scheme, credentials, host := some host, portNumber, path }

/-- The address of a file: a host after two slashes, unless a drive stands there. -/
def file (cs : List Char) : Except UrlError Url := do
  let scheme := "file".toList
  match cs with
  | a :: b :: rest =>
    if isSlash true a && isSlash true b then
      let front := rest.takeWhile fun c => !isSlash true c
      if front.isEmpty || isDriveLetter front then
        .ok { scheme, path := pathStart true rest }
      else
        let host ← Host.parse front
        let path := pathStart true (rest.dropWhile fun c => !isSlash true c)
        .ok { scheme, host := if host = .name "localhost".toList then none else some host, path }
    else .ok { scheme, path := pathStart true cs }
  | _ => .ok { scheme, path := pathStart true cs }

/-- An address with a scheme, without its query and fragment. -/
def absolute (isWhole : Bool) (scheme : List Char) (cs : List Char) : Except UrlError Url :=
  if isFile scheme then file cs
  else if isSpecial scheme then authority isWhole scheme (cs.dropWhile (isSlash true))
  else match cs with
    | '/' :: '/' :: rest => authority isWhole scheme rest
    | '/' :: rest => .ok { scheme, path := pathAfter false [] rest }
    | _ => .ok { scheme, path := .opaqueText (percentEncode inControls cs) }

def segmentsOf : Path → List (List Char)
  | .segments list => list
  | .opaqueText _ => []

/-- An address relative to one of a special scheme, without its fragment. -/
def relative (base : Url) (cs : List Char) (query : Option (List Char)) : Except UrlError Url :=
  match cs with
  | [] => .ok { base with query := if query.isSome then query else base.query }
  | '/' :: '/' :: rest => (authority false base.scheme rest).map ({ · with query })
  | c :: rest =>
    if isSlash true c then
      if (rest.head?.map (isSlash true)).getD false then
        (authority false base.scheme (rest.dropWhile (isSlash true))).map ({ · with query })
      else .ok { base with path := pathAfter true [] rest, query }
    else
      .ok { base with path := pathAfter true (segmentsOf base.path).dropLast (c :: rest), query }

/-- Reads an address, relative to another one of a special scheme if that is given. -/
def parse (base : Option Url) (text : List Char) : Except UrlError Url := do
  let (front, fragment) := cut '#' (clean text)
  let (front, query) := cut '?' front
  let isWhole := query.isNone && fragment.isNone
  let fragment := fragment.map (percentEncode inFragment)
  let encodedQuery (scheme : List Char) :=
    query.map (percentEncode (if isSpecial scheme then inSpecialQuery else inQuery))
  let url ← match takeScheme? front, base with
    | some (scheme, rest), some base =>
      let slashes := (rest.takeWhile (isSlash true)).length
      if scheme = base.scheme ∧ slashes < 2 then relative base rest (encodedQuery scheme)
      else (absolute isWhole scheme rest).map ({ · with query := encodedQuery scheme })
    | some (scheme, rest), none =>
      (absolute isWhole scheme rest).map ({ · with query := encodedQuery scheme })
    | none, some base => relative base front (encodedQuery base.scheme)
    | none, none => .error .relativeWithoutBase
  .ok { url with fragment }

def pathText : Path → List Char
  | .opaqueText cs => cs
  | .segments list => list.flatMap ('/' :: ·)

/-- What a request for the address names: path and query, without the fragment. -/
def target (u : Url) : List Char :=
  pathText u.path ++ (match u.query with
    | some q => '?' :: q
    | none => [])

def text (u : Url) : List Char :=
  let host := match u.host with
    | some h => '/' :: '/' :: ((match u.credentials with
        | some (name, []) => name ++ ['@']
        | some (name, password) => name ++ ':' :: (password ++ ['@'])
        | none => []) ++ h.text ++ (match u.portNumber with
        | some n => ':' :: (Nat.repr n).toList
        | none => []))
    | none => if isFile u.scheme then ['/', '/'] else []
  u.scheme ++ ':' :: (host ++ u.target ++ (match u.fragment with
    | some f => '#' :: f
    | none => []))

def queryPairs (u : Url) : List (String × String) := Form.decode (u.query.getD [])

def appendPairs (u : Url) (pairs : List (String × String)) : Url :=
  if pairs.isEmpty then u else { u with query := some (Form.append (u.query.getD []) pairs) }

end Url
end AccessCatalog.Web
