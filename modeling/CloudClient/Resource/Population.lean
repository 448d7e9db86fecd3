import CloudClient.Exchange
import CloudClient.Registry
import CloudClient.Resource

/-!
# Filling resources from payloads

A payload fills the fields it names, one after another in key order; fields that it does not name,
identifiers, derived collections and undeclared keys stay as they were. A relation takes over the
resources already held under its field, matched by id, so that what is known of them is not lost.
A payload that fails part way leaves the fields before the failure filled.
-/

namespace CloudClient

abbrev Filling (α : Type) := Step (Resource × Log) α

namespace Filling

def note (level : Level) (message : String) : Filling Unit :=
  .modify fun (r, log) => (r, log ++ [⟨level, message⟩])

def put (name : String) (value : FieldValue) : Filling Unit :=
  .modify fun (r, log) => (r.put name value, log)

def take (name : String) : Filling FieldValue := fun (r, log) =>
  (.ok (r.peek name), r.remove name, log)

/-- The same operation on another resource, which is handed back. -/
def on (held : Resource) (x : Filling Unit) : Filling Resource := fun (r, log) =>
  match x (held, log) with
  | (.ok (), held, log) => (.ok held, r, log)
  | (.error e, _, log) => (.error e, r, log)

end Filling

namespace Resource

/-- The id that a value refers to: that of an object, or a scalar itself. -/
def referredId? (target : ResourceType) : Json → Option Json
  | .obj fields => (Json.obj fields).getSome? target.idField
  | .null => none
  | .arr _ => none
  | v => some v

def hasContent (target : ResourceType) : Json → Bool
  | .obj fields => fields.any fun (key, _) => key != target.idField
  | _ => false

def plainValue (name : String) (p : Property) : Json → Filling FieldValue
  | .obj fields => return .mapped (.ofFields fields)
  | .arr items => return .ofJson (.arr items)
  | .str s =>
    if p.datetime then
      match Datetime.parse? s.toList with
      | some t => return .datetime t
      | none => do
        Filling.note .warn ("Field '" ++ name ++ "' has unexpected datetime format '" ++ s ++
          "', keeping raw value")
        return .scalar (.str s)
    else return .scalar (.str s)
  | v => return .scalar v

/-- Removes the item at an index; the last item takes its place. -/
def swapRemove (rs : List Resource) (index : Nat) : List Resource :=
  match rs.getLast? with
  | none => []
  | some last => (rs.set index last).dropLast

def takeById (id : Json) (rs : List Resource) : Option Resource × List Resource :=
  match rs.findIdx? fun r => r.id.same id with
  | some index => (rs[index]?, swapRemove rs index)
  | none => (none, rs)

/-- The resource of an id: the one held before, or a new one, filled by what the payload has besides
the id. -/
def relateOne (target : ResourceType) (held? : Option Resource) (id payload : Json)
    (fill : Filling Unit) : Filling Resource := do
  let r ← match held? with
    | some r => pure r
    | none => .ofExcept (handle target id none)
  if hasContent target payload then Filling.on r fill else return r

/-- A list of related resources, one for each item that has an id. -/
def relateItems (target : ResourceType) :
    List Resource → List (Json × Filling Unit) → Filling (List Resource)
  | _, [] => return []
  | held, (item, fill) :: rest => do
    match referredId? target item with
    | none =>
      let kind ← Step.read fun (r, _) => r.kind
      Filling.note .warn (target.displayName ++ " entry in " ++ kind ++ " has no '" ++
        target.idField ++ "', skipping")
      relateItems target held rest
    | some id =>
      let (held?, held) := takeById id held
      let related ← relateOne target held? id item fill
      let others ← relateItems target held rest
      return related :: others

def heldById? (id : Json) : FieldValue → Option Resource
  | .resource r => if r.id.same id then some r else none
  | _ => none

/-- The value of a relation. `fill` is what the payload fills, `items` the same for each item of an
array. -/
def relate (registry : Registry) (key : String) (held : FieldValue) (payload : Json)
    (fill : Filling Unit) (items : List (Json × Filling Unit)) : Filling FieldValue := do
  let target ← .ofExcept (registry.get key)
  match payload with
  | .arr _ => return .resources (← relateItems target (held.asResources?.getD []) items)
  | _ =>
    match referredId? target payload with
    | none => .fail (.unexpectedResponse
        (target.displayName ++ " reference has no '" ++ target.idField ++ "'") payload)
    | some id => return .resource (← relateOne target (heldById? id held) id payload fill)

def fillField (registry : Registry) (name : String) (payload : Json) (fill : Filling Unit)
    (items : List (Json × Filling Unit)) : Filling Unit := do
  let property? ← Step.read fun (r, _) => r.type.property? name
  match property? with
  | none => return ()
  | some p =>
    if p.identifier then return ()
    match p.link with
    | .derived _ => return ()
    | .plain => Filling.put name (← plainValue name p payload)
    | .nested target =>
      if payload.isNull then Filling.put name (.scalar .null)
      else
        let held ← Filling.take name
        Filling.put name (← relate registry target held payload fill items)
    | .slug target =>
      if payload.isNull then Filling.put name (.scalar .null)
      else
        let type ← .ofExcept (registry.get target)
        Filling.put name (.resource (← .ofExcept (handle type payload none)))
    | .byId target =>
      match ResourceType.aliasOf? name with
      | none => Filling.put name (.scalar payload)
      | some exposed =>
        if payload.isNull then Filling.put exposed (.scalar .null)
        else
          let held ← Filling.take exposed
          Filling.put exposed (← relate registry target held payload fill items)
        Filling.put name (.scalar payload)

/-- The state after a payload has filled every field it names. -/
def populatedFrom (r : Resource) (now : Nat) (payload : Json) : Resource :=
  { r with populated := true, updated? := some now, raw? := some payload, changed := [] }

def markPopulated (now : Nat) (payload : Json) : Filling Unit :=
  .modify fun (r, log) => (r.populatedFrom now payload, log)

mutual
def fillFields (registry : Registry) (now : Nat) : List (String × Json) → Filling Unit
  | [] => return ()
  | (name, payload) :: rest => do
    fillField registry name payload (fillObject registry now payload)
      (fillItems registry now payload)
    fillFields registry now rest
termination_by structural fields => fields
/-- What an object fills; a value of another kind fills nothing. -/
def fillObject (registry : Registry) (now : Nat) : Json → Filling Unit
  | .obj fields => do
    fillFields registry now fields
    markPopulated now (.obj fields)
  | _ => return ()
termination_by structural v => v
/-- The items of an array beside what each of them fills. -/
def fillItems (registry : Registry) (now : Nat) : Json → List (Json × Filling Unit)
  | .arr items => fillList registry now items
  | _ => []
termination_by structural v => v
def fillList (registry : Registry) (now : Nat) : List Json → List (Json × Filling Unit)
  | [] => []
  | item :: rest => (item, fillObject registry now item) :: fillList registry now rest
termination_by structural items => items
end

def fill (registry : Registry) (now : Nat) (payload : Json) : Filling Unit := do
  if payload.asObj?.isSome then fillObject registry now payload
  else
    let name ← Step.read fun (r, _) => r.type.displayName
    .fail (.unexpectedResponse (name ++ " payload is not an object") payload)

/-! ## Construction from a payload -/

/-- Identifiers besides the id are taken once, when the resource is made. -/
def withIdentifiers (r : Resource) (payload : Json) : Resource :=
  r.type.properties.foldl (fun r (name, p) =>
    if p.identifier && name != r.type.idField then
      match payload.get? name with
      | some v => r.put name (.scalar v)
      | none => r
    else r) r

def ofPayload (registry : Registry) (now : Nat) (type : ResourceType) (id : Json)
    (parent? : Option ParentKey) (payload : Json) : Step Log Resource := do
  let r ← .ofExcept (handle type id parent?)
  fun log =>
    match fill registry now payload (r.withIdentifiers payload, log) with
    | (.ok (), r, log) => (.ok r, log)
    | (.error e, _, log) => (.error e, log)

def ofItem (registry : Registry) (now : Nat) (type : ResourceType) (parent? : Option ParentKey)
    (payload : Json) : Step Log Resource :=
  match payload.getSome? type.idField with
  | some id => ofPayload registry now type id parent? payload
  | none => .fail (.unexpectedResponse
      (type.displayName ++ " payload has no '" ++ type.idField ++ "'") payload)

end Resource
end CloudClient
