import CloudClient.Config
import CloudClient.Exchange
import CloudClient.Filter
import CloudClient.Registry
import CloudClient.Text.Quoted

/-!
# The client

A client is made from a configuration whose base URL can be read and whose user agent can be sent.
Every call joins a path to the base URL as a text and reads the result as a URL again.
-/

namespace CloudClient

structure Client where
  /-- Without slashes at its end. -/
  baseUrl : String
  agent : String
  token? : Option String
  registry : Registry
  /-- At least one. -/
  pageSize : Nat
  refreshSeconds : Nat
deriving Repr

namespace Client

def trimSlashes (s : List Char) : List Char := (s.reverse.dropWhile (· = '/')).reverse

def ofConfig (config : Config) (registry : Registry) : Except Error Client := do
  let _ ← config.parsedBaseUrl
  if !Exchange.isHeaderText config.userAgent then .error (.transport .unsendable)
  return {
    baseUrl := String.ofList (trimSlashes config.baseUrl.toList)
    agent := config.userAgent
    token? := config.token?
    registry
    pageSize := max config.pageSize.toNat 1
    refreshSeconds := config.refreshSeconds.toNat }

def url (c : Client) (path : String) : Except Error Url :=
  let relative := String.ofList (path.toList.dropWhile (· = '/'))
  match Url.parse (c.baseUrl ++ "/" ++ relative) with
  | .ok url => .ok url
  | .error fault => .error (.invalidInput ("bad path '" ++ path ++ "': " ++ fault.message))

/-- The settings that may be printed; the token is not among them. -/
def description (c : Client) : String :=
  "ApiClient \x7b base_url: " ++ Text.quoted c.baseUrl ++ ", authenticated: " ++
    toString c.token?.isSome ++ ", page_size: " ++ toString c.pageSize ++ " \x7d"

def request (c : Client) (method : Method) (url : Url) : Request :=
  { method, url, agent := c.agent, authorization? := c.token?.map fun t => "Bearer " ++ t }

def filterHeader? (filter? : Option Filter) : Option String :=
  (filter?.filter fun f => !f.isEmpty).map Filter.header

def get (c : Client) (path : String) (filter? : Option Filter) : Step World Json := do
  let url ← .ofExcept (c.url path)
  Exchange.send { c.request .get url with filter? := filterHeader? filter? }

/-- One page of a list, counted from one. -/
def getPage (c : Client) (path : String) (page : Nat) (filter? : Option Filter) :
    Step World Json := do
  let url ← .ofExcept (c.url path)
  let paged := (url.addPair "page" page).addPair "page_size" c.pageSize
  Exchange.send { c.request .get paged with filter? := filterHeader? filter? }

def post (c : Client) (path : String) (body : Json) : Step World Json := do
  let url ← .ofExcept (c.url path)
  Exchange.send { c.request .post url with body? := some body.compact }

def put (c : Client) (path : String) (body : Json) : Step World Json := do
  let url ← .ofExcept (c.url path)
  Exchange.send { c.request .put url with body? := some body.compact }

def delete (c : Client) (path : String) : Step World Json := do
  let url ← .ofExcept (c.url path)
  Exchange.send (c.request .delete url)

end Client
end CloudClient
