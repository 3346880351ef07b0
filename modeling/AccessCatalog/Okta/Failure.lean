import AccessCatalog.Catalog.Fault
import AccessCatalog.Json.Reader
import AccessCatalog.Web.Link

/-! Failures of requests to the service. A response outside the 200s carries an error record or
any other text; its code decides what it means, and its status only where the code does not. -/
namespace AccessCatalog.Okta

structure ApiError where
  code : String := ""
  summary : String := ""
  link : String := ""
  id : String := ""
  causes : List String := []
  deriving DecidableEq, Repr

namespace ApiError

def decodeCause? (v : Json) : Option String := do
  match ← v.fields? [["errorSummary"]] with
  | [summary] => Json.orElse Json.str? "" summary
  | _ => none

def decode? (v : Json) : Option ApiError := do
  match ← v.fields? [["errorCode"], ["errorSummary"], ["errorLink"], ["errorId"],
      ["errorCauses"]] with
  | [code, summary, link, id, causes] =>
    some {
      code := ← Json.orElse Json.str? "" code
      summary := ← Json.orElse Json.str? "" summary
      link := ← Json.orElse Json.str? "" link
      id := ← Json.orElse Json.str? "" id
      causes := ← Json.orElse (Json.list? decodeCause?) [] causes }
  | _ => none

/-- What stands for the record when the body is none: the start of the body, or the status. -/
def ofText (status : Nat) (body : String) : ApiError :=
  { summary := if body.isEmpty then "HTTP " ++ Nat.repr status
      else String.ofList (body.toList.take 256) }

def parse (status : Nat) (body : String) : ApiError :=
  ((Json.parse? body).bind decode?).getD (ofText status body)

end ApiError

inductive ErrorClass where
  | notFound
  | accessDenied
  | unclassified
  deriving DecidableEq, Repr

namespace ErrorClass

/-- What a code means by itself. -/
def ofCode (code : String) : ErrorClass :=
  if code = "E0000007" ∨ code = "E0000008" then .notFound
  else if code = "E0000006" then .accessDenied
  else .unclassified

/-- What a code means, or the status where the code says nothing. -/
def classify (status : Nat) (code : String) : ErrorClass :=
  match ofCode code with
  | .unclassified =>
    if status = 403 then .accessDenied else if status = 404 then .notFound else .unclassified
  | c => c

end ErrorClass

/-- The budget that the headers report, unless one of its parts is missing or no number. -/
def rateLimit? (headers : Web.Headers) : Option RateLimit := do
  let number (name : String) : Option Int := do
    let value ← (headers.values name).head?
    if Web.Headers.isReadable value then
      let digits (cs : List Char) : Option Nat :=
        if cs.isEmpty ∨ !cs.all Char.isDigit then none
        else some (cs.foldl (fun n c => n * 10 + (c.toNat - 48)) 0)
      let i : Int ← match Text.trimBoth Text.isBlank value.toList with
        | '-' :: cs => (digits cs).map fun n => -(n : Int)
        | '+' :: cs => (digits cs).map Int.ofNat
        | cs => (digits cs).map Int.ofNat
      if Numeric.fitsInt64 i then some i else none
    else none
  let limit ← number "x-rate-limit-limit"
  let remaining ← number "x-rate-limit-remaining"
  let resetAt ← Instant.ofUnixSeconds? (← number "x-rate-limit-reset")
  some ⟨limit, remaining, resetAt⟩

inductive Failure where
  | config (message : String)
  /-- A response outside the 200s. -/
  | api (status : Nat) (error : ApiError) (rateLimit : Option RateLimit)
  /-- No response came. -/
  | http (detail : String)
  /-- The body of a response was not what it should be. -/
  | json
  | url (error : Web.UrlError)

namespace Failure

def jsonDetail : String := "unexpected document"

def message : Failure → String
  | .config m => "Configuration error: " ++ m
  | .api status e _ =>
    "Okta API error (" ++ Nat.repr status ++ "): " ++ e.code ++ " " ++ e.summary
  | .http detail => "HTTP error: " ++ detail
  | .json => "JSON error: " ++ jsonDetail
  | .url e => "URL error: " ++ e.message

/-- Only answers of the service have a class. -/
def errorClass : Failure → ErrorClass
  | .api status e _ => ErrorClass.classify status e.code
  | _ => .unclassified

def isAccessDenied (f : Failure) : Bool := f.errorClass = .accessDenied
def isNotFound (f : Failure) : Bool := f.errorClass = .notFound

/-- The fault of the operation that failed. -/
def context (f : Failure) (operation : String) : Fault :=
  match f with
  | .api status e rateLimit =>
    match ErrorClass.classify status e.code with
    | .notFound => .notFound operation
    | .accessDenied => .accessDenied operation
    | .unclassified => .serviceError operation status e.code e.summary rateLimit
  | .http detail => .network operation detail
  | .json => .serialization (operation ++ ": " ++ jsonDetail)
  | .url e => .invalidConfiguration (operation ++ ": " ++ e.message)
  | .config m => .invalidConfiguration m

end Failure
end AccessCatalog.Okta
