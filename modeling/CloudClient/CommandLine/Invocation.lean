import CloudClient.Text

/-!
# Reading the command line

Arguments are read from left to right at two places, before and after the command. Each place knows
some options that take a value, some switches and how many words it takes; three options are known
at both places, and what stands after the command wins. Reading stops at the first misuse, or at the
first request for help or the version.
-/

namespace CloudClient.CommandLine

inductive LogLevel
  | off | error | warn | info | debug | trace
deriving DecidableEq, Repr

def LogLevel.read? : String → Option LogLevel
  | "off" => some .off
  | "error" => some .error
  | "warn" => some .warn
  | "info" => some .info
  | "debug" => some .debug
  | "trace" => some .trace
  | _ => none

structure GetRequest where
  kind : String
  id : String
  parents : List String := []
  field? : Option String := none
deriving DecidableEq, Repr

structure ListRequest where
  kind : String
  parents : List String := []
  clauses : List String := []
  orderBy? : Option String := none
  descending : Bool := false
  limit? : Option Int := none
deriving DecidableEq, Repr

inductive Command
  | get (request : GetRequest)
  | list (request : ListRequest)
  | types
deriving DecidableEq, Repr

structure Invocation where
  token? : Option String := none
  baseUrl? : Option String := none
  logLevel : LogLevel := .off
  command : Command
deriving DecidableEq, Repr

inductive Stop
  | misuse
  | help
  | version
deriving DecidableEq, Repr

inductive OptionName
  | token | baseUrl | logLevel | parent | field | clause | orderBy | limit
deriving DecidableEq, Repr

namespace OptionName

def text : OptionName → String
  | .token => "token"
  | .baseUrl => "base-url"
  | .logLevel => "log-level"
  | .parent => "parent"
  | .field => "field"
  | .clause => "where"
  | .orderBy => "order-by"
  | .limit => "limit"

def isRepeatable : OptionName → Bool
  | .parent | .clause => true
  | _ => false

def accepts : OptionName → String → Bool
  | .logLevel, value => (LogLevel.read? value).isSome
  | .limit, value => (Text.int64? value.toList).isSome
  | _, _ => true

end OptionName

structure Place where
  options : List OptionName
  switch? : Option String := none
  words : Nat
  isTop : Bool := false
deriving Repr

structure Scan where
  values : List (OptionName × String) := []
  isSwitched : Bool := false
  words : List String := []
deriving Repr

namespace Scan

def valuesOf (s : Scan) (name : OptionName) : List String :=
  (s.values.filter fun (n, _) => n = name).map Prod.snd

def value? (s : Scan) (name : OptionName) : Option String := (s.valuesOf name).head?

def addValue (s : Scan) (name : OptionName) (value : String) : Except Stop Scan :=
  if (!name.isRepeatable && (s.value? name).isSome) || !name.accepts value then .error .misuse
  else .ok { s with values := s.values ++ [(name, value)] }

def addSwitch (s : Scan) : Except Stop Scan :=
  if s.isSwitched then .error .misuse else .ok { s with isSwitched := true }

def addWord (place : Place) (s : Scan) (word : String) : Except Stop Scan :=
  if s.words.length < place.words then .ok { s with words := s.words ++ [word] }
  else .error .misuse

def addWords (place : Place) (s : Scan) : List String → Except Stop Scan
  | [] => .ok s
  | word :: rest => do addWords place (← s.addWord place word) rest

end Scan

inductive Token
  | word
  | escape
  | long (name : String) (value? : Option String)
  | short (first : Char)
deriving DecidableEq, Repr

def Token.ofArgument (argument : String) : Token :=
  match argument.toList with
  | ['-', '-'] => .escape
  | '-' :: '-' :: body =>
    match Text.splitOnce? '=' body with
    | some (name, value) => .long (String.ofList name) (some (String.ofList value))
    | none => .long (String.ofList body) none
  | '-' :: first :: _ => .short first
  | _ => .word

def shortStop (place : Place) (first : Char) : Stop :=
  if first = 'h' then .help
  else if place.isTop && first = 'V' then .version
  else .misuse

/-- A name that is no option with a value: the switch, or a request. -/
def readSwitch (place : Place) (s : Scan) (name : String) (value? : Option String) :
    Except Stop Scan :=
  if value?.isSome then .error .misuse
  else if name = "help" then .error .help
  else if place.isTop && name = "version" then .error .version
  else if place.switch? = some name then s.addSwitch
  else .error .misuse

/-- The arguments of a place, and those after the command where the place ends with one. `pending`
is an option whose value comes next. -/
def scan (place : Place) (s : Scan) :
    Option OptionName → List String → Except Stop (Scan × List String)
  | none, [] => .ok (s, [])
  | some _, [] => .error .misuse
  | some name, argument :: rest =>
    if Token.ofArgument argument = .word then do
      scan place (← s.addValue name argument) none rest
    else .error .misuse
  | none, argument :: rest =>
    match Token.ofArgument argument with
    | .word =>
      if place.isTop then .ok ({ s with words := [argument] }, rest)
      else do scan place (← s.addWord place argument) none rest
    | .escape => if place.isTop then .error .misuse else do return (← s.addWords place rest, [])
    | .short first => .error (shortStop place first)
    | .long text value? =>
      match place.options.find? fun name => name.text = text with
      | none => do scan place (← readSwitch place s text value?) none rest
      | some name =>
        match value? with
        | none => scan place s (some name) rest
        | some value => do scan place (← s.addValue name value) none rest

def commonOptions : List OptionName := [.token, .baseUrl, .logLevel]

def topPlace : Place := { options := commonOptions, words := 1, isTop := true }

def getPlace : Place := { options := commonOptions ++ [.parent, .field], words := 2 }

def listPlace : Place :=
  { options := commonOptions ++ [.parent, .clause, .orderBy, .limit]
    switch? := some "desc"
    words := 1 }

def typesPlace : Place := { options := commonOptions, words := 0 }

/-- A common option: what stands after the command wins. -/
def common? (before after : Scan) (name : OptionName) : Option String :=
  (after.value? name).or (before.value? name)

def invocation (before after : Scan) (command : Command) : Invocation :=
  { token? := common? before after .token
    baseUrl? := common? before after .baseUrl
    logLevel := ((common? before after .logLevel).bind LogLevel.read?).getD .off
    command }

def readGet (after : Scan) : Except Stop Command :=
  match after.words with
  | [kind, id] => .ok (.get {
      kind, id, parents := after.valuesOf .parent, field? := after.value? .field })
  | _ => .error .misuse

def readList (after : Scan) : Except Stop Command :=
  match after.words with
  | [kind] => .ok (.list {
      kind
      parents := after.valuesOf .parent
      clauses := after.valuesOf .clause
      orderBy? := after.value? .orderBy
      descending := after.isSwitched
      limit? := (after.value? .limit).bind fun n => Text.int64? n.toList })
  | _ => .error .misuse

def readHelp : List String → Stop
  | [] => .help
  | [command] => if ["get", "list", "types", "help"].contains command then .help else .misuse
  | _ => .misuse

def readCommand (before : Scan) (place : Place) (read : Scan → Except Stop Command)
    (arguments : List String) : Except Stop Invocation := do
  let (after, _) ← scan place {} none arguments
  return invocation before after (← read after)

def readArguments (arguments : List String) : Except Stop Invocation := do
  let (before, rest) ← scan topPlace {} none arguments
  match before.words with
  | ["get"] => readCommand before getPlace readGet rest
  | ["list"] => readCommand before listPlace readList rest
  | ["types"] => readCommand before typesPlace (fun _ => .ok .types) rest
  | ["help"] => .error (readHelp rest)
  | _ => .error .misuse

end CloudClient.CommandLine
