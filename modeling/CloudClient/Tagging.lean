import CloudClient.Catalog

/-!
# Tagging

A new tag is applied to resources of four types, each listed by id under a name of its own. All
checks come before the request, so a list with one resource of another type sends nothing.
-/

namespace CloudClient.Tagging

def bodyKey? (kind : String) : Option String :=
  if kind = "instances" then some "linodes"
  else if kind = "domains" then some "domains"
  else if kind = "volumes" then some "volumes"
  else if kind = "nodebalancers" then some "nodebalancers"
  else none

def addId (body : Dict Json) (key : String) (id : Json) : Dict Json :=
  match (Dict.get? body key).bind Json.asArr? with
  | some ids => body.insert key (.arr (ids ++ [id]))
  | none => body.insert key (.arr [id])

def addEntities (body : Dict Json) : List Resource → Except Error (Dict Json)
  | [] => .ok body
  | r :: rest =>
    match bodyKey? r.kind with
    | none => .error (.invalidInput (r.nameWithId ++ " cannot be tagged"))
    | some key => addEntities (addId body key r.id) rest

/-- The body of the request for a label, which is trimmed and must not be blank. -/
def body (label : String) (entities : List Resource) : Except Error Json := do
  let trimmed := Text.trim label.toList
  if trimmed.isEmpty then .error (.invalidInput "tag label cannot be empty")
  return .obj (← addEntities [("label", .str (String.ofList trimmed))] entities)

end Tagging

def Client.createTag (c : Client) (label : String) (entities : List Resource) :
    Step World Resource := do
  let body ← .ofExcept (Tagging.body label entities)
  c.create "tags" none body

end CloudClient
