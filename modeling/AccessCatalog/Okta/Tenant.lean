import AccessCatalog.Paging.Page
import AccessCatalog.Text.Quoted
import AccessCatalog.Catalog.Fault
import AccessCatalog.Web.Url

/-! The configuration of one tenant: how to reach it, whose users are in scope, and what else to
do there. -/
namespace AccessCatalog.Okta

def maxPageSize : Nat := 1000

structure Tenant where
  /-- The host name of the organization. -/
  domain : String
  apiToken : Option String := none
  /-- The email domains whose users are in scope; none means no users. -/
  emailDomains : List String := []
  caching : Bool := true
  /-- Seconds a kept response may lie unused. -/
  cacheIdle : Nat := 60
  /-- Seconds a response may be kept. -/
  cacheLife : Nat := 300
  skipSecondaryEmails : Bool := false
  syncCustomRoles : Bool := false
  provisioning : Bool := false
  pageSize : Nat := defaultPageSize
  requestTimeout : Nat := 30
  /-- An address to use in place of the domain's. -/
  baseUrl : Option String := none
  deriving DecidableEq

namespace Tenant

def decode? (v : Json) : Option Tenant := do
  match ← v.fields? [["domain"], ["api_token", "api-token"],
      ["ciam_email_domains", "ciam-email-domains"], ["cache"], ["cache_tti_secs", "cache-tti"],
      ["cache_ttl_secs", "cache-ttl"], ["skip_secondary_emails", "skip-secondary-emails"],
      ["sync_custom_roles", "sync-custom-roles"], ["okta_provisioning", "okta-provisioning"],
      ["page_size"], ["request_timeout_secs"], ["base_url"]] with
  | [domain, apiToken, emailDomains, caching, cacheIdle, cacheLife, skipSecondaryEmails,
      syncCustomRoles, provisioning, pageSize, requestTimeout, baseUrl] =>
    some {
      domain := ← Json.required Json.str? domain
      apiToken := ← Json.orElse (Json.optional? Json.str?) none apiToken
      emailDomains := ← Json.orElse (Json.list? Json.str?) [] emailDomains
      caching := ← Json.orElse Json.bool? true caching
      cacheIdle := ← Json.orElse Json.nat64? 60 cacheIdle
      cacheLife := ← Json.orElse Json.nat64? 300 cacheLife
      skipSecondaryEmails := ← Json.orElse Json.bool? false skipSecondaryEmails
      syncCustomRoles := ← Json.orElse Json.bool? false syncCustomRoles
      provisioning := ← Json.orElse Json.bool? false provisioning
      pageSize := ← Json.orElse Json.nat64? defaultPageSize pageSize
      requestTimeout := ← Json.orElse Json.nat64? 30 requestTimeout
      baseUrl := ← Json.orElse (Json.optional? Json.str?) none baseUrl }
  | _ => none

/-- The address that paths are put behind. -/
def apiBaseUrl (t : Tenant) : String :=
  match t.baseUrl with
  | some url => String.ofList (Text.trimEnd (· == '/') url.toList)
  | none => "https://" ++ t.domain

/-- The domains in small letters, blank ones left out. -/
def loweredEmailDomains (t : Tenant) : List String :=
  (t.emailDomains.map fun d => Text.lowercase (Text.trim d)).filter fun d => !d.isEmpty

def token? (t : Tenant) : Option String := t.apiToken.filter fun token => !token.isEmpty

def hasToken (t : Tenant) : Bool := t.token?.isSome

def pageLimit (t : Tenant) (r : PageRequest) : Nat := min (r.sizeOr t.pageSize) maxPageSize

/-- Whether a text has the slashes that no host name has. -/
def hasSlash (s : String) : Bool := s.toList.contains '/'

def validate (t : Tenant) : Except Fault Unit :=
  if (Text.trim t.domain).isEmpty then .error (.invalidConfiguration "domain is required")
  else if hasSlash t.domain then
    .error (.invalidConfiguration "domain must be a host name without scheme or path")
  else if t.pageSize = 0 ∨ maxPageSize < t.pageSize then
    .error (.invalidConfiguration
      ("page_size must be between 1 and " ++ Nat.repr maxPageSize))
  else if t.requestTimeout = 0 then
    .error (.invalidConfiguration "request_timeout_secs must be positive")
  else match t.baseUrl with
    | none => .ok ()
    | some url =>
      match Web.Url.parse none url.toList with
      | .ok _ => .ok ()
      | .error e => .error (.invalidConfiguration ("invalid base_url: " ++ e.message))

def redacted (t : Tenant) : Tenant := { t with apiToken := t.apiToken.map fun _ => "***" }

def diagnostic (t : Tenant) : String :=
  let option (f : String → String) : Option String → String
    | some s => "Some(" ++ f s ++ ")"
    | none => "None"
  "OktaConfig \x7b domain: " ++ Text.quoted t.domain ++
    ", api_token: " ++ option (fun _ => "Secret([REDACTED alloc::string::String])") t.apiToken ++
    ", ciam_email_domains: [" ++ String.intercalate ", " (t.emailDomains.map Text.quoted) ++
    "], cache: " ++ toString t.caching ++
    ", cache_tti_secs: " ++ Nat.repr t.cacheIdle ++
    ", cache_ttl_secs: " ++ Nat.repr t.cacheLife ++
    ", skip_secondary_emails: " ++ toString t.skipSecondaryEmails ++
    ", sync_custom_roles: " ++ toString t.syncCustomRoles ++
    ", okta_provisioning: " ++ toString t.provisioning ++
    ", page_size: " ++ Nat.repr t.pageSize ++
    ", request_timeout_secs: " ++ Nat.repr t.requestTimeout ++
    ", base_url: " ++ option Text.quoted t.baseUrl ++ " \x7d"

end Tenant
end AccessCatalog.Okta
