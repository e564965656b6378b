import CloudCensus.Asset.Basic
import CloudCensus.Text.Quoted

namespace CloudCensus

structure Request where
  parent : String
  kinds : List String
  facet : Facet
  deriving DecidableEq, Repr, Inhabited

inductive Reason where
  | authenticationFailed
  | permissionDenied
  | resourceExhausted
  | deadlineExceeded
  | unavailable
  | notFound
  | requestFailed
  | invalidResponse
  | badConfiguration
  | internal
  deriving DecidableEq, Repr, Inhabited

namespace Reason

def all : List Reason :=
  [authenticationFailed, permissionDenied, resourceExhausted, deadlineExceeded, unavailable, notFound,
    requestFailed, invalidResponse, badConfiguration, internal]

def label : Reason → String
  | authenticationFailed => "authentication_failed"
  | permissionDenied => "permission_denied"
  | resourceExhausted => "resource_exhausted"
  | deadlineExceeded => "deadline_exceeded"
  | unavailable => "unavailable"
  | notFound => "not_found"
  | requestFailed => "request_failed"
  | invalidResponse => "invalid_response"
  | badConfiguration => "config_error"
  | internal => "internal"

def title : Reason → String
  | authenticationFailed => "Authentication failed"
  | permissionDenied => "Permission denied"
  | resourceExhausted => "Resource exhausted"
  | deadlineExceeded => "Deadline exceeded"
  | unavailable => "Service unavailable"
  | notFound => "Not found"
  | requestFailed => "Request failed"
  | invalidResponse => "Invalid response"
  | badConfiguration => "Configuration error"
  | internal => "Internal error"

def ofLabel? (s : String) : Option Reason := all.find? fun r => r.label = s

end Reason

/-- The description of a failure; a `foreign` one is worded outside of this library. -/
inductive Detail where
  | stated (text : String)
  | foreign
  deriving DecidableEq, Repr, Inhabited

inductive Failure where
  | because (reason : Reason) (detail : Detail)
  | cancelled
  | listing (request : Request) (source : Failure)
  deriving DecidableEq, Repr, Inhabited

namespace Failure

def label : Failure → String
  | because r _ => r.label
  | cancelled => "cancelled"
  | listing _ _ => "stream_failed"

/-- The message, where all of it is worded here. -/
def message : Failure → Option String
  | because r (.stated text) => some (r.title ++ ": " ++ text)
  | because _ .foreign => none
  | cancelled => some "Operation cancelled"
  | listing request source =>
    source.message.map fun text =>
      "Failed to list " ++ request.facet.label ++ " assets of types " ++ quotedList request.kinds ++
        " in " ++ request.parent ++ ": " ++ text

def isTransient : Failure → Bool
  | because .resourceExhausted _ => true
  | because .deadlineExceeded _ => true
  | because .unavailable _ => true
  | _ => false

end Failure

abbrev Outcome (α : Type) := Except Failure α

end CloudCensus
