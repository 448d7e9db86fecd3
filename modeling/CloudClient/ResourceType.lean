import CloudClient.Error

/-!
# Resource types

A type has an item endpoint with a placeholder for its id and one for each parent id, and a
dictionary of declared properties. A property is plain or points at one other type: as a nested
resource, as the slug id of one, as the raw id of one under a name that ends in `_id`, or as a
collection of children listed below this resource.
-/

namespace CloudClient

inductive Link
  | plain
  | nested (target : String)
  | derived (target : String)
  | slug (target : String)
  | byId (target : String)
deriving DecidableEq, Repr, Inhabited

namespace Link

def target? : Link → Option String
  | .plain => none
  | .nested t | .derived t | .slug t | .byId t => some t

def isDerived : Link → Bool
  | .derived _ => true
  | _ => false

def isById : Link → Bool
  | .byId _ => true
  | _ => false

end Link

structure Property where
  identifier : Bool := false
  mutable : Bool := false
  volatile : Bool := false
  datetime : Bool := false
  filterable : Bool := false
  nullable : Bool := false
  link : Link := .plain
deriving DecidableEq, Repr, Inhabited

structure ResourceType where
  key : String
  displayName : String
  endpoint : String
  parentIds : List String
  idField : String
  properties : Dict Property
deriving DecidableEq, Repr, Inhabited

def placeholder (name : String) : List Char := '\x7b' :: (name.toList ++ ['\x7d'])

def itemSegment : List Char := '/' :: placeholder "id"

namespace ResourceType

def property? (t : ResourceType) (name : String) : Option Property := t.properties.get? name

def isDerived (t : ResourceType) : Bool := !t.parentIds.isEmpty

def collection (t : ResourceType) : String :=
  String.ofList ((Text.stripSuffix? itemSegment t.endpoint.toList).getD t.endpoint.toList)

def mutableNames (t : ResourceType) : List String :=
  (t.properties.filter fun (_, p) => p.mutable).map Prod.fst

def filterableNames (t : ResourceType) : List String :=
  (t.properties.filter fun (_, p) => p.filterable).map Prod.fst

def filterField (t : ResourceType) (name : String) : Except Error FilterField :=
  match t.property? name with
  | none => .error (.unknownField t.key name)
  | some p => .ok ⟨name, p.filterable⟩

/-- The name under which an id relation exposes the resource it points at. -/
def aliasOf? (name : String) : Option String :=
  (Text.stripSuffix? ['_', 'i', 'd'] name.toList).map String.ofList

theorem toList_of_aliasOf? {name exposed : String} (h : aliasOf? name = some exposed) :
    name.toList = exposed.toList ++ ['_', 'i', 'd'] := by
  obtain ⟨start, hstart, rfl⟩ := Option.map_eq_some_iff.mp h
  rw [String.toList_ofList]
  exact Text.eq_append_of_stripSuffix? hstart

theorem aliasOf?_inj {a b exposed : String} (ha : aliasOf? a = some exposed)
    (hb : aliasOf? b = some exposed) : a = b :=
  String.toList_injective ((toList_of_aliasOf? ha).trans (toList_of_aliasOf? hb).symm)

theorem aliasOf?_ne {name exposed : String} (h : aliasOf? name = some exposed) : exposed ≠ name := by
  intro hname
  subst hname
  have hlength := congrArg List.length (toList_of_aliasOf? h)
  simp at hlength

/-- A declared property, or the id relation that exposes its resource under this name. -/
def describe (t : ResourceType) (name : String) : Except Error Property :=
  match t.property? name with
  | some p => .ok p
  | none =>
    match t.property? (name ++ "_id") with
    | some p => if p.link.isById then .ok p else .error (.unknownField t.displayName name)
    | none => .error (.unknownField t.displayName name)

end ResourceType
end CloudClient
