import CloudClient.Json.Parts

/-!
# Definition documents

A document declares resource types and the types behind entity tags. It is read from JSON as it
stands: unknown keys are passed over with their values except in a property, a declared key may not
be repeated, and of a repeated type or property name the last declaration counts. Every record may
also be written as an array of its fields in order. A document is not yet checked; that is
`Registry.ofDocuments`.
-/

namespace CloudClient

structure PropertyDocument where
  identifier : Bool := false
  mutable : Bool := false
  volatile : Bool := false
  relationship : Option String := none
  derivedClass : Option String := none
  datetime : Bool := false
  filterable : Bool := false
  idRelationship : Option String := none
  slugRelationship : Option String := none
  nullable : Bool := false
deriving DecidableEq, Repr, Inhabited

structure TypeDocument where
  displayName : String
  endpoint : String
  parentIds : List String := []
  idField : String := "id"
  properties : Dict PropertyDocument := []
deriving DecidableEq, Repr, Inhabited

structure Document where
  entityTypes : Dict String := []
  resources : Dict TypeDocument := []
deriving DecidableEq, Repr, Inhabited

namespace Json

def readBool? (s : List Char) : Option Bool := (scalar? s).bind asBool?

def readStr? (s : List Char) : Option String := (scalar? s).bind asStr?

def readDict? {α : Type} (value? : List Char → Option α) (s : List Char) : Option (Dict α) :=
  match parts? s with
  | some (.members entries) =>
    (entries.mapM fun entry => (value? entry.2).map fun a => (entry.1, a)).map Dict.ofList
  | _ => none

def readList? {α : Type} (value? : List Char → Option α) (s : List Char) : Option (List α) :=
  match parts? s with
  | some (.items texts) => texts.mapM value?
  | _ => none

def readOptionalStr? : Option (List Char) → Option (Option String)
  | none => some none
  | some s => do
    let v ← scalar? s
    if v.isNull then some none else v.asStr?.map some

end Json

namespace PropertyDocument

def names : List String :=
  ["identifier", "mutable", "volatile", "relationship", "derived_class", "datetime", "filterable",
   "id_relationship", "slug_relationship", "nullable"]

def knowsKeys : Json.Parts → Bool
  | .members entries => entries.all fun (k, _) => names.contains k
  | _ => true

def flag? : Option (List Char) → Option Bool := Json.readOr false Json.readBool?

def read? (s : List Char) : Option PropertyDocument := do
  let parts ← Json.parts? s
  if !knowsKeys parts then none else
  match ← parts.slots? names with
  | [identifier, mutable, volatile, relationship, derivedClass, datetime, filterable,
      idRelationship, slugRelationship, nullable] =>
    some {
      identifier := ← flag? identifier
      mutable := ← flag? mutable
      volatile := ← flag? volatile
      relationship := ← Json.readOptionalStr? relationship
      derivedClass := ← Json.readOptionalStr? derivedClass
      datetime := ← flag? datetime
      filterable := ← flag? filterable
      idRelationship := ← Json.readOptionalStr? idRelationship
      slugRelationship := ← Json.readOptionalStr? slugRelationship
      nullable := ← flag? nullable }
  | _ => none

end PropertyDocument

namespace TypeDocument

def names : List String := ["display_name", "endpoint", "parent_ids", "id_field", "properties"]

def read? (s : List Char) : Option TypeDocument := do
  match ← (← Json.parts? s).slots? names with
  | [some displayName, some endpoint, parentIds, idField, properties] =>
    some {
      displayName := ← Json.readStr? displayName
      endpoint := ← Json.readStr? endpoint
      parentIds := ← Json.readOr [] (Json.readList? Json.readStr?) parentIds
      idField := ← Json.readOr "id" Json.readStr? idField
      properties := ← Json.readOr [] (Json.readDict? PropertyDocument.read?) properties }
  | _ => none

end TypeDocument

namespace Document

def names : List String := ["entity_types", "resources"]

def read? (s : List Char) : Option Document := do
  match ← (← Json.parts? s).slots? names with
  | [entityTypes, resources] =>
    some {
      entityTypes := ← Json.readOr [] (Json.readDict? Json.readStr?) entityTypes
      resources := ← Json.readOr [] (Json.readDict? TypeDocument.read?) resources }
  | _ => none

def parse? (source : String) : Option Document := (Json.valueText? source.toList).bind read?

end Document
end CloudClient
