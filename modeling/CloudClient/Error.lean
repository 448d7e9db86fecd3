import CloudClient.Filter
import CloudClient.Json.Reader

/-!
# Errors

Every failure of the library, its message, and the short text that a user is shown for it. What is
shown has only printable ASCII; for a refusal by the server it is chosen by the status, so that
nothing of the response body but a first reason of status 400 gets through.
-/

namespace CloudClient

structure ApiError where
  status : Nat
  reasons : List String
  json : Json
deriving Repr

inductive TransportError
  | unsendable
  | unsupported (url : String)
  | unanswered (url : String)
deriving DecidableEq, Repr

def TransportError.message : TransportError → String
  | .unsendable => "builder error"
  | .unsupported url => "builder error for url (" ++ url ++ ")"
  | .unanswered url => "error sending request for url (" ++ url ++ ")"

inductive Error
  | api (refusal : ApiError)
  | unexpectedResponse (message : String) (json : Json)
  | immutableField (type field : String)
  | unknownField (type field : String)
  | unknownType (key : String)
  | filter (cause : FilterError)
  | invalidInput (reason : String)
  | registry (reason : String)
  | config (reason : String)
  | transport (cause : TransportError)
  | json
deriving Repr

namespace ApiError

def entryReason? (entry : Json) : Option String := do
  let reason ← (← entry.get? "reason").asStr?
  match (entry.get? "field").bind Json.asStr? with
  | some field => some (field ++ ": " ++ reason)
  | none => some reason

def listedReasons (body : Json) : List String :=
  match (body.get? "errors").bind Json.asArr? with
  | some entries => entries.filterMap entryReason?
  | none => []

def reasonsOf (body : Json) : List String :=
  listedReasons body ++ ((body.get? "error").bind Json.asStr?).toList

/-- A body that is not JSON is kept as a string. -/
def ofResponse (status : Nat) (body : String) : ApiError :=
  let json := (Json.read? body).getD (.str body)
  ⟨status, reasonsOf json, json⟩

def message (e : ApiError) : String :=
  "API request failed: " ++ toString e.status ++ " " ++ String.intercalate "; " e.reasons

def isNotFound (e : ApiError) : Bool := e.status == 404

end ApiError

/-- A body of status 2xx that reports a failure all the same. -/
def Json.hasErrorMarker (body : Json) : Bool :=
  (body.get? "error").isSome || (body.get? "errors").isSome

namespace Error

def message : Error → String
  | .api e => e.message
  | .unexpectedResponse m _ => "unexpected response: " ++ m
  | .immutableField type field => "cannot set immutable field '" ++ field ++ "' on " ++ type
  | .unknownField type field => type ++ " has no field '" ++ field ++ "'"
  | .unknownType key => "unknown resource type '" ++ key ++ "'"
  | .filter cause => cause.message
  | .invalidInput reason => "invalid input: " ++ reason
  | .registry reason => "invalid resource definition: " ++ reason
  | .config reason => "configuration error: " ++ reason
  | .transport cause => "HTTP transport error: " ++ cause.message
  | .json => "JSON error"

/-- The first `max` printable characters; an ellipsis tells that something was left out. -/
def abbreviate (message : String) (max : Nat) : String :=
  let kept := (message.toList.filter Text.isPrintable).take max
  if kept.length < message.utf8ByteSize then String.ofList kept ++ "..." else String.ofList kept

def shownRefusal (e : ApiError) : String :=
  if e.status = 401 then "Authentication failed. Check your API token."
  else if e.status = 403 then "Permission denied. Check your token's scopes."
  else if e.status = 404 then "Resource not found."
  else if e.status = 409 then
    "Resource conflict. The resource may already exist or be in use."
  else if e.status = 429 then "Rate limit exceeded. Please try again later."
  else if e.status = 400 then
    match e.reasons with
    | reason :: _ => "Invalid request: " ++ abbreviate reason 80
    | [] => "Invalid request. Check your parameters."
  else if 500 ≤ e.status ∧ e.status ≤ 599 then
    "Service temporarily unavailable. Please try again."
  else "Request failed. Check your network connection and try again."

def shown : Error → String
  | .api e => shownRefusal e
  | e => abbreviate e.message 80

end Error
end CloudClient
