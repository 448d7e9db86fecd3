import CloudClient.Resource.Lifecycle

/-!
# Obtaining resources

Resources are made from ids alone, from payloads, by fetching them and by creating them on the
server. A payload that carries a type tag is resolved to the registered type of that tag.
-/

namespace CloudClient

inductive TaggedEntity
  | known (r : Resource)
  | unknown (tag : String) (payload : MappedObject)

namespace Client

def construct (c : Client) (kind : String) (id : Json) (parent? : Option ParentKey)
    (payload? : Option Json) : Step World Resource := do
  let type ← .ofExcept (c.registry.get kind)
  match payload? with
  | none => .ofExcept (Resource.handle type id parent?)
  | some payload =>
    let now ← Step.read World.now
    World.logged (Resource.ofPayload c.registry now type id parent? payload)

def load (c : Client) (kind : String) (id : Json) (parent? : Option ParentKey) :
    Step World Resource := do
  let r ← c.construct kind id parent? none
  fun w =>
    match Resource.refresh c (r, w) with
    | (.ok (), r, w) => (.ok r, w)
    | (.error e, _, w) => (.error e, w)

def create (c : Client) (kind : String) (parent? : Option ParentKey) (body : Json) :
    Step World Resource := do
  let type ← .ofExcept (c.registry.get kind)
  let path ← .ofExcept (Endpoint.collection type parent?)
  World.note .info ("Creating " ++ type.displayName ++ " at " ++ path)
  let answer ← c.post path body
  if (answer.getSome? type.idField).isNone then
    .fail (.unexpectedResponse ("unexpected response creating " ++ type.displayName) answer)
  else
    let now ← Step.read World.now
    World.logged (Resource.ofItem c.registry now type parent? answer)

def resolve (c : Client) (payload : Json) : Step World TaggedEntity := do
  match MappedObject.ofJson? payload with
  | none => .fail (.unexpectedResponse "entity is not an object" payload)
  | some wrapped =>
    match (payload.get? "type").bind Json.asStr? with
    | none => .fail (.unexpectedResponse "entity has no 'type'" payload)
    | some tag =>
      match c.registry.entityType? tag with
      | none =>
        World.note .warn ("Unknown entity type '" ++ tag ++ "'")
        return .unknown tag wrapped
      | some type =>
        match payload.getSome? type.idField with
        | none => .fail (.unexpectedResponse "entity has no id" payload)
        | some id => return .known (← .ofExcept (Resource.handle type id none))

end Client

namespace Resource

def getEntity (client : Client) (name : String) : Remote TaggedEntity := do
  let value ← get client name
  Step.second (client.resolve value.toJson)

def getAs {α : Type} (client : Client) (name : String) (read? : Json → Option α) : Remote α := do
  let value ← get client name
  match read? value.toJson with
  | some a => return a
  | none => .fail .json

end Resource
end CloudClient
