import CloudClient.Exchange.Status
import CloudClient.Step
import CloudClient.Url
import CloudClient.Utf8

/-!
# Exchanges with the server

A request goes over a network, which answers it from the requests that came before. The world holds
that network, the clock, the requests that arrived so far and the log, both in order. A request
whose headers cannot be written, or whose address is not a web address, is never sent.

The rest of sending is left to the HTTP library and stands behind the network: following redirects,
making a header of the credentials in a URL, and refusing a URL that is no HTTP URI, as is one whose
host holds a quotation mark or a brace. A request is recorded as it was handed over, and its answer
is what came of it in the end.

What is logged of a refusal is the start of its body, printable characters only.
-/

namespace CloudClient

inductive Level
  | error | warn | info | debug
deriving DecidableEq, Repr

structure Event where
  level : Level
  message : String
deriving DecidableEq, Repr

abbrev Log := List Event

inductive Method
  | get | post | put | delete
deriving DecidableEq, Repr

def Method.word : Method → String
  | .get => "GET"
  | .post => "POST"
  | .put => "PUT"
  | .delete => "DELETE"

structure Request where
  method : Method
  url : Url
  agent : String
  authorization? : Option String := none
  filter? : Option String := none
  body? : Option String := none
deriving Repr

def Request.contentType? (r : Request) : Option String := r.body?.map fun _ => "application/json"

structure Response where
  status : Nat
  octets : List UInt8 := []
deriving Repr

/-- What becomes of a request: it never arrives, it arrives and the connection closes, or it is
answered. -/
inductive Delivery
  | undelivered
  | dropped
  | answered (response : Response)
deriving Repr

/-- How each request fares after those that arrived before it. -/
abbrev Network := List Request → Request → Delivery

def Network.unreachable : Network := fun _ _ => .undelivered

/-- A server that gives its answers one after another and then fails; `none` closes the
connection. -/
def Network.scripted (script : List (Option Response)) : Network := fun earlier _ =>
  match script[earlier.length]? with
  | some (some response) => .answered response
  | some none => .dropped
  | none => .answered ⟨500, "no scripted response".toList.flatMap Utf8.encode⟩

structure World where
  network : Network
  /-- Nanoseconds. -/
  now : Nat := 0
  sent : List Request := []
  log : Log := []

namespace World

def note (level : Level) (message : String) : Step World Unit :=
  .modify fun w => { w with log := w.log ++ [⟨level, message⟩] }

end World

namespace Exchange

/-- A header holds any character but controls other than the tab. -/
def isHeaderText (s : String) : Bool := s.toList.all fun c => c = '\t' || !Text.isControl c

def takeOctets (max : Nat) : List Char → List Char
  | [] => []
  | c :: rest => if c.utf8Size ≤ max then c :: takeOctets (max - c.utf8Size) rest else []

def maxLogged : Nat := 200

def sanitize (body : String) : String :=
  let kept := takeOctets maxLogged body.toList
  let mark :=
    if maxLogged < body.utf8ByteSize then
      "... [truncated, " ++ toString body.utf8ByteSize ++ " bytes total]"
    else ""
  String.ofList ((kept ++ mark.toList).filter Text.isPrintable)

def isHttp (u : Url) : Bool := ["http", "https"].contains (String.ofList u.scheme)

def fault? (r : Request) : Option TransportError :=
  let url := r.url.withoutUser.text
  if r.url.host?.isNone then some (.unsupported url)
  else if !((r.authorization?.toList ++ r.filter?.toList).all isHeaderText) then some .unsendable
  else if !isHttp r.url then some (.unsupported url)
  else none

/-- The response to a request. One that arrives is recorded, answered or not. -/
def deliver (r : Request) : Step World Response := fun w =>
  match fault? r with
  | some fault => (.error (.transport fault), w)
  | none =>
    let lost : Error := .transport (.unanswered r.url.withoutUser.text)
    match w.network w.sent r with
    | .undelivered => (.error lost, w)
    | .dropped => (.error lost, { w with sent := w.sent ++ [r] })
    | .answered response => (.ok response, { w with sent := w.sent ++ [r] })

def bodyOf (r : Response) : String :=
  if Status.isBodiless r.status then "" else Utf8.decodeLossy r.octets

/-- The JSON of an answer in 2xx, null when its body is blank; any other answer is a refusal. -/
def accept (status : Nat) (body : String) : Step World Json := do
  if Status.isSuccess status then
    if body.toList.all Text.isBlank then return .null
    else match Json.read? body with
      | some v => return v
      | none => .fail .json
  else
    World.note .error ("API error: " ++ Status.text status ++ " - " ++ sanitize body)
    .fail (.api (.ofResponse status body))

def send (r : Request) : Step World Json := do
  World.note .debug (r.method.word ++ " " ++ r.url.text)
  match r.filter? with
  | some filter => World.note .debug ("X-Filter: " ++ filter)
  | none => pure ()
  let response ← deliver r
  accept response.status (bodyOf response)

end Exchange
end CloudClient
