import AccessCatalog.Catalog.Annotations

/-! What can go wrong in an operation of a connector, and which failures a repetition of the same
call cannot mend. -/
namespace AccessCatalog

inductive Fault where
  | notFound (resource : String)
  | accessDenied (operation : String)
  | invalidToken (message : String)
  | validation (message : String)
  | policyViolation (message : String)
  /-- Any other refusal by the service; a throttled one keeps the reported budget. -/
  | serviceError (operation : String) (status : Nat) (code summary : String)
      (rateLimit : Option RateLimit)
  | network (operation message : String)
  | invalidConfiguration (message : String)
  | serialization (message : String)

namespace Fault

def message : Fault → String
  | .notFound resource => "not found: " ++ resource
  | .accessDenied operation => "access denied for " ++ operation
  | .invalidToken message => "invalid page token: " ++ message
  | .validation message => "validation failed: " ++ message
  | .policyViolation message => "policy violation: " ++ message
  | .serviceError operation status code summary _ =>
    operation ++ " failed with status " ++ Nat.repr status ++ ": " ++ code ++ " " ++ summary
  | .network operation message => operation ++ ": network error: " ++ message
  | .invalidConfiguration message => "invalid configuration: " ++ message
  | .serialization message => "serialization error: " ++ message

def code : Fault → String
  | .notFound _ => "NOT_FOUND"
  | .accessDenied _ => "ACCESS_DENIED"
  | .invalidToken _ => "INVALID_TOKEN"
  | .validation _ => "VALIDATION_ERROR"
  | .policyViolation _ => "POLICY_VIOLATION"
  | .serviceError .. => "UPSTREAM_ERROR"
  | .network _ _ => "NETWORK_ERROR"
  | .invalidConfiguration _ => "INVALID_CONFIG"
  | .serialization _ => "SERIALIZATION_ERROR"

def isNotFound : Fault → Bool
  | .notFound _ => true
  | _ => false

def isAccessDenied : Fault → Bool
  | .accessDenied _ => true
  | _ => false

def rateLimit? : Fault → Option RateLimit
  | .serviceError _ _ _ _ r => r
  | _ => none

/-- Only network failures, throttling and failures of the service itself may pass. -/
def isPermanent : Fault → Bool
  | .network _ _ => false
  | .serviceError _ status _ _ _ => !(status == 429 || decide (500 ≤ status))
  | _ => true

def hasSource : Fault → Bool
  | .network _ _ => true
  | _ => false

end Fault
end AccessCatalog
