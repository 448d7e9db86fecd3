import CloudClient.Datetime
import CloudClient.Endpoint
import CloudClient.Mapped

/-!
# Resources

A resource is one remote entity as far as it is known: its type, its id and its parents' ids never
change, its fields hold what the last population and later edits put there. A field of a declared
name that holds nothing reads as unset. What was edited since the last population or save is the
set of changed names.
-/

namespace CloudClient

mutual
inductive FieldValue
  | unset
  | scalar (v : Json)
  | datetime (t : Datetime)
  | mapped (o : MappedObject)
  | list (items : List FieldValue)
  | resource (r : Resource)
  | resources (rs : List Resource)
structure Resource where
  type : ResourceType
  id : Json
  parent? : Option ParentKey
  fields : List (String × FieldValue)
  populated : Bool
  updated? : Option Nat
  raw? : Option Json
  /-- In order and without repetition. -/
  changed : List String
end

deriving instance Repr for FieldValue, Resource

instance : Inhabited FieldValue := ⟨.unset⟩
instance : Inhabited Resource := ⟨⟨default, .null, none, [], false, none, none, []⟩⟩

namespace FieldValue

def isUnset : FieldValue → Bool
  | .unset => true
  | _ => false

def isNull : FieldValue → Bool
  | .scalar .null => true
  | _ => false

def asScalar? : FieldValue → Option Json
  | .scalar v => some v
  | _ => none

def asStr? (v : FieldValue) : Option String := v.asScalar?.bind Json.asStr?
def asInt64? (v : FieldValue) : Option Int := v.asScalar?.bind Json.asInt64?
def asBool? (v : FieldValue) : Option Bool := v.asScalar?.bind Json.asBool?

def asDatetime? : FieldValue → Option Datetime
  | .datetime t => some t
  | _ => none

def asMapped? : FieldValue → Option MappedObject
  | .mapped o => some o
  | _ => none

def asList? : FieldValue → Option (List FieldValue)
  | .list items => some items
  | _ => none

def asResource? : FieldValue → Option Resource
  | .resource r => some r
  | _ => none

def asResources? : FieldValue → Option (List Resource)
  | .resources rs => some rs
  | _ => none

mutual
/-- Objects are wrapped, arrays become lists of values. -/
def ofJson : Json → FieldValue
  | .obj fields => .mapped (.ofFields fields)
  | .arr items => .list (ofItems items)
  | v => .scalar v
termination_by structural v => v
def ofItems : List Json → List FieldValue
  | [] => []
  | v :: rest => ofJson v :: ofItems rest
termination_by structural vs => vs
end

mutual
/-- What is sent for a value: a resource as its id, a timestamp as text, unset as null. -/
def toJson : FieldValue → Json
  | .unset => .null
  | .scalar v => v
  | .datetime t => .str (String.ofList t.text)
  | .mapped o => o.toJson
  | .list items => .arr (itemsJson items)
  | .resource r => r.id
  | .resources rs => .arr (rs.map Resource.id)
termination_by structural v => v
def itemsJson : List FieldValue → List Json
  | [] => []
  | v :: rest => toJson v :: itemsJson rest
termination_by structural vs => vs
end

end FieldValue

namespace Resource

def identified (type : ResourceType) (id : Json) (parent? : Option ParentKey) : Resource :=
  { type, id, parent?
    fields := [(type.idField, .scalar id)]
    populated := false
    updated? := none
    raw? := none
    changed := [] }

/-- A handle on a resource under as many parents as its type declares. -/
def handle (type : ResourceType) (id : Json) (parent? : Option ParentKey) :
    Except Error Resource := do
  Endpoint.checkParent type parent?
  return identified type id parent?

def kind (r : Resource) : String := r.type.key

def peek (r : Resource) (name : String) : FieldValue := (Dict.get? r.fields name).getD .unset

def put (r : Resource) (name : String) (value : FieldValue) : Resource :=
  { r with fields := Dict.insert r.fields name value }

def remove (r : Resource) (name : String) : Resource :=
  { r with fields := Dict.erase r.fields name }

theorem peek_put_self (r : Resource) (name : String) (value : FieldValue) :
    (r.put name value).peek name = value := by
  simp [peek, put, Dict.get?_insert_self]

theorem peek_put_of_ne (r : Resource) {name other : String} (value : FieldValue)
    (h : other ≠ name) : (r.put name value).peek other = r.peek other := by
  simp [peek, put, Dict.get?_insert_of_ne _ _ h]

theorem peek_remove_self (r : Resource) (name : String) : (r.remove name).peek name = .unset := by
  simp [peek, remove, Dict.get?_erase_self]

theorem peek_remove_of_ne (r : Resource) {name other : String} (h : other ≠ name) :
    (r.remove name).peek other = r.peek other := by
  simp [peek, remove, Dict.get?_erase_of_ne _ h]

def endpoint (r : Resource) : Except Error String := Endpoint.item r.type r.id r.parent?

def sameParent : Option ParentKey → Option ParentKey → Bool
  | none, none => true
  | some p, some q => p.same q
  | _, _ => false

/-- The same entity of the same type under the same parents, whatever is known of it. -/
def same (r other : Resource) : Bool :=
  r.kind == other.kind && r.id.same other.id && sameParent r.parent? other.parent?

def describe (r : Resource) (name : String) : Except Error Property := r.type.describe name

def text (r : Resource) : String := r.type.displayName ++ ": " ++ r.id.compact

def nameWithId (r : Resource) : String := r.type.displayName ++ " " ++ r.id.compact

/-! ## Local edits -/

def addName (name : String) : List String → List String
  | [] => [name]
  | n :: rest =>
    if n = name then n :: rest
    else if name < n then name :: n :: rest
    else n :: addName name rest

theorem mem_addName {x name : String} {names : List String} :
    x ∈ addName name names ↔ x = name ∨ x ∈ names := by
  induction names with
  | nil => simp [addName]
  | cons n rest ih =>
    simp only [addName]
    split
    · rename_i h
      subst h
      simp
    · split
      · simp
      · simp only [List.mem_cons, ih]
        constructor
        · intro h
          rcases h with h | h | h <;> simp [h]
        · intro h
          rcases h with h | h | h <;> simp [h]

def set (r : Resource) (name : String) (value : FieldValue) : Except Error Resource :=
  match r.type.property? name with
  | none => .error (.unknownField r.type.displayName name)
  | some p =>
    if p.mutable then .ok { r.put name value with changed := addName name r.changed }
    else .error (.immutableField r.type.displayName name)

/-- Whether a value goes into an update: not when it is unset, and a null only where the field
takes one. -/
def isSent (p : Property) (value : FieldValue) : Bool :=
  !(value.isUnset || (value.isNull && !p.nullable))

def bodyEntry? (r : Resource) (name : String) (p : Property) : Option (String × Json) :=
  let value := r.peek name
  if p.mutable && isSent p value then some (name, value.toJson) else none

def updateBody (r : Resource) : Json :=
  .obj (r.type.properties.filterMap fun (name, p) => r.bodyEntry? name p)

def isIdentifier (type : ResourceType) (name : String) : Bool :=
  ((type.property? name).map Property.identifier).getD false

/-- Only the identifiers are kept; the next read asks the server again. -/
def invalidate (r : Resource) : Resource :=
  { r with
    fields := r.fields.filter fun (name, _) => isIdentifier r.type name
    populated := false
    updated? := none
    raw? := none
    changed := [] }

def saved (r : Resource) : Resource := { r with changed := [] }

end Resource
end CloudClient
