import CloudClient.Registry.Document
import CloudClient.ResourceType

/-!
# The registry of resource types

Documents are merged and then checked as a whole: every type on its own, every relation against the
type it names, every entity tag against a type that needs no parent. A registry in hand has passed
all of these, which is what later look-ups rely on.
-/

namespace CloudClient

inductive RegistryFault
  | unreadable
  | duplicateType (key : String)
  | noItemSegment (key : String)
  | missingPlaceholder (key parent : String)
  | idNotIdentifier (key field : String)
  | manyRelations (key property : String)
  | changingIdentifier (key property : String)
  | misnamedIdRelation (key property : String)
  | unknownTarget (key property target : String)
  | parentCount (key property target : String) (needed found : Nat)
  | derivedEntity (tag key : String)
  | unknownEntity (tag key : String)
deriving DecidableEq, Repr

def RegistryFault.message : RegistryFault → String
  | .unreadable => "failed to parse definitions"
  | .duplicateType key => "duplicate resource type '" ++ key ++ "'"
  | .noItemSegment key => key ++ ": endpoint must end in /\x7bid\x7d"
  | .missingPlaceholder key parent =>
    key ++ ": endpoint does not contain \x7b" ++ parent ++ "\x7d"
  | .idNotIdentifier key field =>
    key ++ ": id field '" ++ field ++ "' must be a declared identifier"
  | .manyRelations key p => key ++ ": '" ++ p ++ "' declares more than one relationship"
  | .changingIdentifier key p =>
    key ++ ": identifier '" ++ p ++ "' cannot be mutable, volatile or derived"
  | .misnamedIdRelation key p => key ++ ": id relationship '" ++ p ++ "' must end in _id"
  | .unknownTarget key p target =>
    key ++ "." ++ p ++ " refers to unknown type '" ++ target ++ "'"
  | .parentCount key p target needed found =>
    key ++ "." ++ p ++ ": '" ++ target ++ "' needs " ++ toString needed ++
      " parent id(s), has " ++ toString found
  | .derivedEntity tag key =>
    "entity type '" ++ tag ++ "' maps to derived type '" ++ key ++ "'"
  | .unknownEntity tag key =>
    "entity type '" ++ tag ++ "' maps to unknown type '" ++ key ++ "'"

structure Registry where
  types : Dict ResourceType := []
  entityTypes : Dict String := []
deriving DecidableEq, Repr, Inhabited

namespace PropertyDocument

def links (d : PropertyDocument) : List Link :=
  (d.relationship.map Link.nested).toList ++ (d.derivedClass.map Link.derived).toList ++
    (d.slugRelationship.map Link.slug).toList ++ (d.idRelationship.map Link.byId).toList

/-- The property declared under a name of a type: at most one relation, an identifier that never
changes, and raw ids of resources only under names that expose them. -/
def check (key name : String) (d : PropertyDocument) : Except RegistryFault Property := do
  let link ← match d.links with
    | [] => .ok Link.plain
    | [link] => .ok link
    | _ => .error (.manyRelations key name)
  if d.identifier && (d.mutable || d.volatile || link.isDerived) then
    .error (.changingIdentifier key name)
  if link.isById && (ResourceType.aliasOf? name).isNone then
    .error (.misnamedIdRelation key name)
  return {
    identifier := d.identifier
    mutable := d.mutable
    volatile := d.volatile
    datetime := d.datetime
    filterable := d.filterable
    nullable := d.nullable
    link }

def checkAll (key : String) : Dict PropertyDocument → Except RegistryFault (Dict Property)
  | [] => .ok []
  | (name, d) :: rest => do
    let p ← d.check key name
    let ps ← checkAll key rest
    return (name, p) :: ps

end PropertyDocument

namespace TypeDocument

def checkParents (key : String) (endpoint : List Char) : List String → Except RegistryFault Unit
  | [] => .ok ()
  | parent :: rest =>
    if Text.occurs (placeholder parent) endpoint then checkParents key endpoint rest
    else .error (.missingPlaceholder key parent)

/-- The type declared under a key: an item endpoint that names the id last and every parent
somewhere, and an id field that is an identifier. -/
def check (key : String) (d : TypeDocument) : Except RegistryFault ResourceType := do
  if !itemSegment.isSuffixOf d.endpoint.toList then .error (.noItemSegment key)
  checkParents key d.endpoint.toList d.parentIds
  if !((d.properties.get? d.idField).map PropertyDocument.identifier).getD false then
    .error (.idNotIdentifier key d.idField)
  let properties ← PropertyDocument.checkAll key d.properties
  return ⟨key, d.displayName, d.endpoint, d.parentIds, d.idField, properties⟩

end TypeDocument

namespace Registry

def addTypes (types : Dict TypeDocument) :
    Dict TypeDocument → Except RegistryFault (Dict TypeDocument)
  | [] => .ok types
  | (key, d) :: rest =>
    if types.contains key then .error (.duplicateType key)
    else addTypes (types.insert key d) rest

/-- All documents as one; of a repeated entity tag the last declaration counts. -/
def merge : Document → List Document → Except RegistryFault Document
  | merged, [] => .ok merged
  | merged, d :: rest => do
    let resources ← addTypes merged.resources d.resources
    merge ⟨merged.entityTypes.overlay d.entityTypes, resources⟩ rest

def checkTypes : Dict TypeDocument → Except RegistryFault (Dict ResourceType)
  | [] => .ok []
  | (key, d) :: rest => do
    let t ← d.check key
    let ts ← checkTypes rest
    return (key, t) :: ts

/-- How many parent ids the type behind a link must take: those of its owner and the owner itself
for children, none otherwise. -/
def parentsNeeded (owner : ResourceType) (link : Link) : Nat :=
  if link.isDerived then owner.parentIds.length + 1 else 0

def checkLink (types : Dict ResourceType) (owner : ResourceType) (name : String) (p : Property) :
    Except RegistryFault Unit :=
  match p.link.target? with
  | none => .ok ()
  | some target =>
    match types.get? target with
    | none => .error (.unknownTarget owner.key name target)
    | some t =>
      let needed := parentsNeeded owner p.link
      if t.parentIds.length = needed then .ok ()
      else .error (.parentCount owner.key name target needed t.parentIds.length)

def checkLinks (types : Dict ResourceType) (owner : ResourceType) :
    Dict Property → Except RegistryFault Unit
  | [] => .ok ()
  | (name, p) :: rest => do
    checkLink types owner name p
    checkLinks types owner rest

def checkAllLinks (types : Dict ResourceType) : Dict ResourceType → Except RegistryFault Unit
  | [] => .ok ()
  | (_, t) :: rest => do
    checkLinks types t t.properties
    checkAllLinks types rest

def checkEntities (types : Dict ResourceType) : Dict String → Except RegistryFault Unit
  | [] => .ok ()
  | (tag, key) :: rest =>
    match types.get? key with
    | none => .error (.unknownEntity tag key)
    | some t => if t.isDerived then .error (.derivedEntity tag key) else checkEntities types rest

def ofDocuments (documents : List Document) : Except RegistryFault Registry := do
  let merged ← merge {} documents
  let types ← checkTypes merged.resources
  checkAllLinks types types
  checkEntities types merged.entityTypes
  return ⟨types, merged.entityTypes⟩

def ofSources (sources : List String) : Except RegistryFault Registry :=
  match sources.mapM Document.parse? with
  | none => .error .unreadable
  | some documents => ofDocuments documents

def get (r : Registry) (key : String) : Except Error ResourceType :=
  match r.types.get? key with
  | some t => .ok t
  | none => .error (.unknownType key)

def keys (r : Registry) : List String := r.types.keys

def entityType? (r : Registry) (tag : String) : Option ResourceType :=
  (r.entityTypes.get? tag).bind r.types.get?

end Registry
end CloudClient
