import CloudClient.Listing

/-!
# Reading, saving and deleting

A read asks the server when a field is unset on a resource that was never populated, and when a
volatile field is older than the refresh window. Children are listed anew by every read. A failed
exchange ends the operation; an answer in 2xx that reports a failure leaves the resource as it is.
-/

namespace CloudClient

abbrev Remote (α : Type) := Step (Resource × World) α

namespace Resource

def populate (client : Client) (payload : Json) : Remote Unit := fun (r, w) =>
  let (result, r, log) := fill client.registry w.now payload (r, w.log)
  (result, r, { w with log })

/-- Fetches and fills, whatever is known already. -/
def refresh (client : Client) : Remote Unit := do
  let r ← Step.read Prod.fst
  let path ← .ofExcept r.endpoint
  let answer ← Step.second (client.get path none)
  populate client answer

def isStale (r : Resource) (refreshSeconds now : Nat) : Bool :=
  match r.updated? with
  | none => true
  | some last => refreshSeconds * 1000000000 < now - last

def needsFetch (r : Resource) (name : String) (p : Property) (refreshSeconds now : Nat) : Bool :=
  ((r.peek name).isUnset && !r.populated) || (p.volatile && r.isStale refreshSeconds now)

def childKey (r : Resource) : ParentKey :=
  match r.parent? with
  | some p => p.child r.id
  | none => ⟨[r.id]⟩

end Resource

namespace Client

def list (c : Client) (kind : String) (parent? : Option ParentKey) (filter? : Option Filter) :
    Step World Listing := do
  let type ← .ofExcept (c.registry.get kind)
  let path ← .ofExcept (Endpoint.collection type parent?)
  Listing.opened c type path parent? filter?

def listAll (c : Client) (kind : String) (parent? : Option ParentKey) :
    Step World (List Resource) := do
  let list ← c.list kind parent? none
  fun w =>
    let (result, _, w) := Listing.collect c (list, w)
    (result, w)

end Client

namespace Resource

/-- The value of a field, after asking the server where what is known cannot tell. -/
def get (client : Client) (name : String) : Remote FieldValue := do
  let r ← Step.read Prod.fst
  let p ← .ofExcept (r.describe name)
  if p.identifier then return r.peek name
  match p.link with
  | .derived child =>
    let children ← Step.second (client.listAll child (some r.childKey))
    Step.modify fun (r, w) => (r.put name (.resources children), w)
  | _ =>
    let now ← Step.read fun (_, w) => w.now
    if r.needsFetch name p client.refreshSeconds now then refresh client
  Step.read fun (r, _) => r.peek name

/-- Sends the mutable fields; false when the answer reports a failure. -/
def save (client : Client) : Remote Bool := do
  let r ← Step.read Prod.fst
  let path ← .ofExcept r.endpoint
  Step.second (World.note .info ("Saving " ++ r.nameWithId))
  let answer ← Step.second (client.put path r.updateBody)
  if answer.hasErrorMarker then
    Step.second (World.note .warn ("Save of " ++ r.nameWithId ++ " was rejected"))
    return false
  else
    Step.modify fun (r, w) => (r.saved, w)
    return true

/-- Deletes on the server and forgets all but the identifiers; false when the answer reports a
failure. -/
def delete (client : Client) : Remote Bool := do
  let r ← Step.read Prod.fst
  let path ← .ofExcept r.endpoint
  Step.second (World.note .info ("Deleting " ++ r.nameWithId))
  let answer ← Step.second (client.delete path)
  if answer.hasErrorMarker then
    Step.second (World.note .warn ("Delete of " ++ r.nameWithId ++ " was rejected"))
    return false
  else
    Step.modify fun (r, w) => (r.invalidate, w)
    return true

end Resource
end CloudClient
