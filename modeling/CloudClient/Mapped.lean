import CloudClient.Json
import CloudClient.Text

/-!
# Nested JSON by dotted path

Parts of a payload that are no resources of their own are wrapped so that they can be read by
path: an object goes down by key, a list by index, a scalar not at all.
-/

namespace CloudClient

inductive Mapped
  | scalar (v : Json)
  | object (entries : List (String × Mapped))
  | list (items : List Mapped)
deriving Inhabited, Repr

namespace Mapped

mutual
def ofJson : Json → Mapped
  | .obj fields => .object (ofFields fields)
  | .arr items => .list (ofItems items)
  | v => .scalar v
termination_by structural v => v
def ofItems : List Json → List Mapped
  | [] => []
  | v :: rest => ofJson v :: ofItems rest
termination_by structural vs => vs
def ofFields : List (String × Json) → List (String × Mapped)
  | [] => []
  | (k, v) :: rest => (k, ofJson v) :: ofFields rest
termination_by structural vs => vs
end

mutual
def toJson : Mapped → Json
  | .scalar v => v
  | .object entries => .obj (entriesJson entries)
  | .list items => .arr (itemsJson items)
termination_by structural m => m
def itemsJson : List Mapped → List Json
  | [] => []
  | m :: rest => toJson m :: itemsJson rest
termination_by structural ms => ms
def entriesJson : List (String × Mapped) → List (String × Json)
  | [] => []
  | (k, m) :: rest => (k, toJson m) :: entriesJson rest
termination_by structural ms => ms
end

def asScalar? : Mapped → Option Json
  | .scalar v => some v
  | _ => none

def asStr? (m : Mapped) : Option String := m.asScalar?.bind Json.asStr?
def asInt64? (m : Mapped) : Option Int := m.asScalar?.bind Json.asInt64?
def asBool? (m : Mapped) : Option Bool := m.asScalar?.bind Json.asBool?

def child? (m : Mapped) (segment : List Char) : Option Mapped :=
  match m with
  | .object entries => Dict.get? entries (String.ofList segment)
  | .list items => (Text.index? segment).bind fun index => items[index]?
  | .scalar _ => none

def walk? (m : Mapped) (segments : List (List Char)) : Option Mapped :=
  match segments with
  | [] => some m
  | segment :: rest => (m.child? segment).bind fun below => below.walk? rest

end Mapped

structure MappedObject where
  entries : Dict Mapped
deriving Inhabited, Repr

namespace MappedObject

def ofFields (fields : Dict Json) : MappedObject := ⟨Mapped.ofFields fields⟩

def ofJson? (v : Json) : Option MappedObject := v.asObj?.map ofFields

def toJson (o : MappedObject) : Json := .obj (Mapped.entriesJson o.entries)

def get? (o : MappedObject) (key : String) : Option Mapped := o.entries.get? key

def path? (o : MappedObject) (path : String) : Option Mapped :=
  (Mapped.object o.entries).walk? (Text.splitOn '.' path.toList)

end MappedObject
end CloudClient
