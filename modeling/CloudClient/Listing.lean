import CloudClient.Client
import CloudClient.Resource.Population

/-!
# Paged lists

A list endpoint answers one page at a time. The first page is fetched when the list is opened and
fixes how many items and pages there are; other pages are fetched when an item on them is asked for
and kept in a table that grows as far as the page. A page count that the result count cannot account
for is refused, so the table stays in proportion to the items.
-/

namespace CloudClient

structure Page where
  items : List Resource
  pages : Nat
  results : Nat

structure Listing where
  type : ResourceType
  path : String
  parent? : Option ParentKey
  filter? : Option Filter
  table : List (Option (List Resource))
  pageCount : Nat
  perPage : Nat
  total : Nat
deriving Inhabited

abbrev Paging (α : Type) := Step (Listing × World) α

namespace World

def logged {α : Type} (x : Step Log α) : Step World α := fun w =>
  let (result, log) := x w.log
  (result, { w with log })

end World

namespace Page

/-- A count of an answer; absent and null mean that it is not given. -/
def count? (answer : Json) (key : String) : Except Error (Option Nat) :=
  match answer.getSome? key with
  | none => .ok none
  | some v =>
    match v.asNatBelow? UInt64.size with
    | some n => .ok (some n)
    | none => .error (.unexpectedResponse ("list response has invalid '" ++ key ++ "'") answer)

def decodeItems (registry : Registry) (now : Nat) (type : ResourceType)
    (parent? : Option ParentKey) : List Json → Step Log (List Resource)
  | [] => return []
  | item :: rest => do
    let r ← Resource.ofItem registry now type parent? item
    let rs ← decodeItems registry now type parent? rest
    return r :: rs

/-- One page more than all pages but the last, each as full as this one, would need. -/
def maxPages (results items : Nat) : Nat := (results + max items 1 - 1) / max items 1 + 1

def decode (registry : Registry) (now : Nat) (type : ResourceType) (parent? : Option ParentKey)
    (answer : Json) : Step Log Page := do
  match (answer.get? "data").bind Json.asArr? with
  | none => .fail (.unexpectedResponse "list response has no 'data' array" answer)
  | some data =>
    let items ← decodeItems registry now type parent? data
    let results := (← .ofExcept (count? answer "results")).getD items.length
    let pages := (← .ofExcept (count? answer "pages")).getD 1
    if maxPages results items.length < pages then
      .fail (.unexpectedResponse "list response has inconsistent 'pages'" answer)
    else return ⟨items, pages, results⟩

def fetch (client : Client) (type : ResourceType) (path : String) (parent? : Option ParentKey)
    (filter? : Option Filter) (page : Nat) : Step World Page := do
  let answer ← client.getPage path page filter?
  let now ← Step.read World.now
  World.logged (decode client.registry now type parent? answer)

end Page

namespace Listing

/-- A list of one page holds what that page holds; a longer one holds what the server reports, the
first page telling how many items are on each. -/
def ofFirst (client : Client) (type : ResourceType) (path : String) (parent? : Option ParentKey)
    (filter? : Option Filter) (first : Page) : Listing :=
  let held := first.items.length
  { type, path, parent?, filter?
    table := [some first.items]
    pageCount := max first.pages 1
    perPage := if 1 < first.pages then max held 1 else max (max client.pageSize held) 1
    total := if 1 < first.pages then first.results else held }

def opened (client : Client) (type : ResourceType) (path : String) (parent? : Option ParentKey)
    (filter? : Option Filter) : Step World Listing := do
  let first ← Page.fetch client type path parent? filter? 1
  if first.pages ≤ 1 && first.results != first.items.length then
    World.note .warn (type.key ++ " list reports " ++ toString first.results ++
      " result(s) but holds " ++ toString first.items.length ++ " on its only page")
  let list := ofFirst client type path parent? filter? first
  World.note .debug ("Listed " ++ type.key ++ ": " ++ toString list.total ++ " item(s) over " ++
    toString list.pageCount ++ " page(s)")
  return list

def isEmpty (list : Listing) : Bool := list.total == 0

def tableFor (list : Listing) (page : Nat) : List (Option (List Resource)) :=
  list.table ++ List.replicate (page + 1 - list.table.length) none

def page? (list : Listing) (page : Nat) : Option (List Resource) := list.table[page]?.join

/-- Fetches a page, counted from zero, unless it is there. -/
def ensurePage (client : Client) (page : Nat) : Paging Unit := do
  Step.modify fun (list, w) => ({ list with table := list.tableFor page }, w)
  let list ← Step.read Prod.fst
  if (list.page? page).isNone then
    let fetched ← Step.second
      (Page.fetch client list.type list.path list.parent? list.filter? (page + 1))
    Step.modify fun (list, w) =>
      ({ list with table := list.table.set page (some fetched.items) }, w)

def get? (client : Client) (index : Nat) : Paging (Option Resource) := do
  let list ← Step.read Prod.fst
  let page := index / list.perPage
  if list.total ≤ index || list.pageCount ≤ page then return none
  else
    ensurePage client page
    let list ← Step.read Prod.fst
    return (list.page? page).bind fun items => items[index % list.perPage]?

def first? (client : Client) : Paging (Option Resource) := get? client 0

def last? (client : Client) : Paging (Option Resource) := do
  let list ← Step.read Prod.fst
  if list.isEmpty then return none else get? client (list.total - 1)

def only (client : Client) : Paging Resource := do
  let list ← Step.read Prod.fst
  if list.total ≠ 1 then
    .fail (.invalidInput ("expected exactly one " ++ list.type.displayName ++ ", found " ++
      toString list.total))
  else
    match ← get? client 0 with
    | some r => return r
    | none => .fail (.invalidInput (list.type.displayName ++ " list is empty"))

def walk (client : Client) : Nat → Nat → Paging (List Resource)
  | 0, _ => return []
  | count + 1, index => do
    match ← get? client index with
    | none => return []
    | some r =>
      let rest ← walk client count (index + 1)
      return r :: rest

/-- The items from the first on, up to a limit; pages after the last item taken are not fetched. -/
def stream (client : Client) (limit? : Option Nat) : Paging (List Resource) := do
  let list ← Step.read Prod.fst
  walk client (match limit? with | none => list.total | some n => min n list.total) 0

def ensurePages (client : Client) : Nat → Nat → Paging Unit
  | 0, _ => return ()
  | count + 1, page => do
    ensurePage client page
    ensurePages client count (page + 1)

def items (list : Listing) : List Resource := list.table.flatMap fun page => page.getD []

def collect (client : Client) : Paging (List Resource) := do
  let list ← Step.read Prod.fst
  ensurePages client list.pageCount 0
  Step.read fun (list, _) => list.items

end Listing
end CloudClient
