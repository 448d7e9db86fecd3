import CloudClient.Json.Writer
import CloudClient.Percent
import CloudClient.ResourceType

/-!
# Parent keys and endpoints

The ids of a nested resource's parents are listed outermost first. An endpoint is formed by
replacing each parent's placeholder in turn and the item's own last. A string id is
percent-encoded; any other id is written as compact JSON.
-/

namespace CloudClient

structure ParentKey where
  ids : List Json
deriving Repr, Inhabited

namespace ParentKey

def child (p : ParentKey) (id : Json) : ParentKey := ⟨p.ids ++ [id]⟩

def same (p q : ParentKey) : Bool := Json.sameItems p.ids q.ids

end ParentKey

namespace Endpoint

def parentCount (parent? : Option ParentKey) : Nat := (parent?.map fun p => p.ids.length).getD 0

def checkParent (type : ResourceType) (parent? : Option ParentKey) : Except Error Unit :=
  let given := parentCount parent?
  if given = type.parentIds.length then .ok ()
  else .error (.invalidInput (type.displayName ++ " needs " ++ toString type.parentIds.length ++
    " parent id(s), got " ++ toString given))

def segment : Json → List Char
  | .str s => Percent.encodeSegment s.toList
  | v => v.text

def fillParents (template : List Char) : List (String × Json) → List Char
  | [] => template
  | (name, id) :: rest =>
    fillParents (Text.replaceAll (placeholder name) (segment id) template) rest

def fill (type : ResourceType) (template : List Char) (id? : Option Json)
    (parent? : Option ParentKey) : List Char :=
  let parents := match parent? with
    | none => []
    | some p => type.parentIds.zip p.ids
  let path := fillParents template parents
  match id? with
  | none => path
  | some id => Text.replaceAll (placeholder "id") (segment id) path

def format (type : ResourceType) (template : String) (id? : Option Json)
    (parent? : Option ParentKey) : Except Error String := do
  checkParent type parent?
  return String.ofList (fill type template.toList id? parent?)

def item (type : ResourceType) (id : Json) (parent? : Option ParentKey) : Except Error String :=
  format type type.endpoint (some id) parent?

def collection (type : ResourceType) (parent? : Option ParentKey) : Except Error String :=
  format type type.collection none parent?

end Endpoint
end CloudClient
