import CloudClient.Catalog
import CloudClient.CommandLine.Invocation
import CloudClient.Json.Reader
import CloudClient.Registry.Builtin

/-!
# The command line program

`get` shows one resource or one of its fields, `list` shows the resources of a type, `types` shows
the known types. Ids and filter values that read as numbers are numbers. Only what the program
prints and its exit code leave it; a failure prints the text for a user.
-/

namespace CloudClient.CommandLine

def version : String := "0.2.1"

def usage : String := "Usage: lapi [OPTIONS] <COMMAND>\n\nCommands: get, list, types, help\n"

inductive Failure
  | error (cause : Error)
  | badClause (clause : String)
deriving Repr

def Failure.text : Failure → String
  | .error cause => cause.shown
  | .badClause clause => "Invalid --where '" ++ clause ++ "', expected field=value"

def lift {α : Type} : Except Error α → Except Failure α
  | .ok a => .ok a
  | .error e => .error (.error e)

def liftFilter (r : Except FilterError Filter) : Except Failure Filter :=
  match r with
  | .ok f => .ok f
  | .error e => .error (.error (.filter e))

def readId (raw : String) : Json :=
  match Text.int64? raw.toList with
  | some n => .int n
  | none => .str raw

def parentKey? (parents : List String) : Option ParentKey :=
  if parents.isEmpty then none else some ⟨parents.map readId⟩

/-- A bare word is a string; numbers, truth values and null keep their kind. -/
def readValue (raw : String) : Json :=
  match Json.read? raw with
  | none | some (.obj _) | some (.arr _) => .str raw
  | some v => v

def addClause (type : ResourceType) (filter : Filter) (clause : String) :
    Except Failure Filter :=
  match Text.splitOnce? '=' clause.toList with
  | none => .error (.badClause clause)
  | some (name, raw) => do
    let field ← lift (type.filterField (String.ofList (Text.trim name)))
    let comparison ← liftFilter (field.compare .equal (readValue (String.ofList raw)))
    liftFilter (filter.and comparison)

def addClauses (type : ResourceType) (filter : Filter) : List String → Except Failure Filter
  | [] => .ok filter
  | clause :: rest => do addClauses type (← addClause type filter clause) rest

def addOrder (type : ResourceType) (filter : Filter) (orderBy? : Option String)
    (descending : Bool) : Except Failure Filter :=
  match orderBy? with
  | none => .ok filter
  | some name => do
    let field ← lift (type.filterField name)
    liftFilter (filter.orderBy field descending)

def addLimit (filter : Filter) : Option Int → Except Failure Filter
  | none => .ok filter
  | some n => liftFilter (filter.limit n)

def buildFilter (registry : Registry) (request : ListRequest) : Except Failure Filter := do
  let type ← lift (registry.get request.kind)
  let filter ← addClauses type .everything request.clauses
  let filter ← addOrder type filter request.orderBy? request.descending
  addLimit filter request.limit?

def payloadOf (r : Resource) : Json := r.raw?.getD .null

def printed (v : Json) : String := v.indented ++ "\n"

def typesText (registry : Registry) : String :=
  String.join (registry.types.map fun (key, type) =>
    String.ofList (Text.padRight 24 key.toList) ++ " " ++ type.endpoint ++ "\n")

def runGet (client : Client) (request : GetRequest) : Step World String := do
  let r ← client.construct request.kind (readId request.id) (parentKey? request.parents) none
  fun w =>
    match request.field? with
    | some name =>
      let (result, _, w) := Resource.get client name (r, w)
      (result.map fun value => printed value.toJson, w)
    | none =>
      let (result, r, w) := Resource.refresh client (r, w)
      (result.map fun _ => printed (payloadOf r), w)

def runList (client : Client) (request : ListRequest) (filter : Filter) : Step World String := do
  let list ← client.list request.kind (parentKey? request.parents) (some filter)
  fun w =>
    let (result, _, w) := Listing.stream client (request.limit?.map Int.toNat) (list, w)
    (result.map fun rs => printed (.arr (rs.map payloadOf)), w)

def toFailure {α : Type} (x : Step World α) (w : World) : Except Failure α × World :=
  let (result, w) := x w
  (lift result, w)

def runCommand (client : Client) (command : Command) (w : World) :
    Except Failure String × World :=
  match command with
  | .types => (.ok (typesText client.registry), w)
  | .get request => toFailure (runGet client request) w
  | .list request =>
    match buildFilter client.registry request with
    | .error e => (.error e, w)
    | .ok filter => toFailure (runList client request filter) w

/-- The settings in force: the command line over the environment over the file. -/
def settings (place : String) (found : ConfigFile) (env : Environment) (i : Invocation) :
    Except Error Config := do
  let config := (← Config.load place found).withEnvironment env
  return { config with
    token? := i.token?.or config.token?
    baseUrl := i.baseUrl?.getD config.baseUrl }

def connect (place : String) (found : ConfigFile) (env : Environment) (i : Invocation) :
    Except Error Client := do
  let config ← settings place found env i
  Client.ofConfig config Builtin.registry

def LogLevel.admits : LogLevel → Level → Bool
  | .off, _ => false
  | .error, level => level = .error
  | .warn, level => level = .error || level = .warn
  | .info, level => level ≠ .debug
  | .debug, _ | .trace, _ => true

structure Outcome where
  exitCode : Nat
  output : String := ""
  errors : String := ""
  logLevel : LogLevel := .off
deriving DecidableEq, Repr

def Outcome.ofStop : Stop → Outcome
  | .misuse => { exitCode := 2, errors := usage }
  | .help => { exitCode := 0, output := usage }
  | .version => { exitCode := 0, output := "lapi " ++ version ++ "\n" }

def Outcome.ofResult (logLevel : LogLevel) : Except Failure String → Outcome
  | .ok output => { exitCode := 0, output, logLevel }
  | .error e => { exitCode := 1, errors := "Error: " ++ e.text ++ "\n", logLevel }

def run (arguments : List String) (place : String) (found : ConfigFile) (env : Environment)
    (w : World) : Outcome × World :=
  match readArguments arguments with
  | .error stop => (.ofStop stop, w)
  | .ok i =>
    match connect place found env i with
    | .error e => (.ofResult i.logLevel (.error (.error e)), w)
    | .ok client =>
      let (result, w) := runCommand client i.command w
      (.ofResult i.logLevel result, w)

end CloudClient.CommandLine
