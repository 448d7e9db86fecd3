import CloudClient.Error
import CloudClient.Url
import CloudClient.Utf8
import CloudClient.Yaml
import CloudClient.Yaml.Writer

/-!
# Configuration

The settings of a client and their file. A file names any of the settings; the others keep their
defaults, and names that are no settings are passed over. Texts are written so that they read back
as the same text, whatever they look like. The environment has the last word over a file.
-/

namespace CloudClient

structure Config where
  baseUrl : String := "https://api.linode.com/v4"
  token? : Option String := none
  pageSize : UInt32 := 100
  refreshSeconds : UInt64 := 15
  userAgent : String := "lapi/0.2.1"
deriving DecidableEq, Repr, Inhabited

inductive ConfigFile
  | absent
  | octets (content : List UInt8)
  | blocked
deriving Repr, Inhabited

/-- The two variables that override the file; an empty one counts as not set. -/
structure Environment where
  token : String := ""
  baseUrl : String := ""
deriving Repr, Inhabited

namespace Yaml

def nullTag : List Char := "tag:yaml.org,2002:null".toList
def integerTag : List Char := "tag:yaml.org,2002:int".toList

def asText? : Yaml → Option String
  | .scalar _ _ s => some (String.ofList s)
  | _ => none

/-- A text, or nothing for a plain null. A tag makes a text of any word, except that of null, which
only a null may have. -/
def asOptionalText? : Yaml → Option (Option String)
  | .scalar .plain none s => some (if isNull s then none else some (String.ofList s))
  | .scalar .plain (some tag) s =>
    if tag = nullTag then (if isNullWord s then some none else none)
    else some (some (String.ofList s))
  | .scalar _ _ s => some (some (String.ofList s))
  | _ => none

/-- An integer from zero up to, and not including, the bound: a plain scalar, or lines that are
tagged as an integer. -/
def asNatBelow? (bound : Nat) : Yaml → Option Nat
  | .scalar style tag? s =>
    if style = .plain || (style = .literal && tag? = some integerTag) then
      (unsigned? s).filter fun n => n < bound
    else none
  | _ => none

def valuesOf (name : String) (entries : List (Yaml × Yaml)) : List Yaml :=
  (entries.filter fun (key, _) => key.asText? == some name).map Prod.snd

/-- A setting that takes its default when it is not named; it may not be named twice. -/
def setting? {α : Type} (entries : List (Yaml × Yaml)) (name : String) (default : α)
    (value? : Yaml → Option α) : Option α :=
  match valuesOf name entries with
  | [] => some default
  | [v] => value? v
  | _ => none

def Document.settings? (d : Document) : Option (List (Yaml × Yaml)) :=
  match d.root with
  | .mapping entries =>
    let entries := entries.map fun (key, v) => (d.node key, d.node v)
    if entries.all fun (key, _) => key.asText?.isSome then some entries else none
  | .scalar _ _ [] => some []
  | _ => none

end Yaml

namespace Config

def ofDocument? (d : Yaml.Document) : Option Config := do
  let entries ← d.settings?
  let initial : Config := {}
  let baseUrl ← Yaml.setting? entries "base_url" initial.baseUrl Yaml.asText?
  let token? ← Yaml.setting? entries "token" initial.token? Yaml.asOptionalText?
  let pageSize ← Yaml.setting? entries "page_size" initial.pageSize fun w =>
    (w.asNatBelow? UInt32.size).map UInt32.ofNat
  let refreshSeconds ← Yaml.setting? entries "volatile_refresh_secs" initial.refreshSeconds fun w =>
    (w.asNatBelow? UInt64.size).map UInt64.ofNat
  let userAgent ← Yaml.setting? entries "user_agent" initial.userAgent Yaml.asText?
  some { baseUrl, token?, pageSize, refreshSeconds, userAgent }

def parsedBaseUrl (c : Config) : Except Error Url :=
  match Url.parse c.baseUrl with
  | .ok url => .ok url
  | .error fault =>
    .error (.config ("invalid base_url '" ++ c.baseUrl ++ "': " ++ fault.message))

def validate (c : Config) : Except Error Unit := do
  if c.pageSize = 0 then .error (.config "page_size must be at least 1")
  let _ ← c.parsedBaseUrl

/-- The settings of the file that lies at `place`; all defaults where there is none. -/
def load (place : String) (found : ConfigFile) : Except Error Config :=
  match found with
  | .absent | .blocked => .ok {}
  | .octets content =>
    match Utf8.decode? content with
    | none => .error (.config ("cannot read " ++ place))
    | some text =>
      match (Yaml.parse? text).bind ofDocument? with
      | none => .error (.config ("invalid config " ++ place))
      | some c => do
        c.validate
        return c

/-- The settings of a file under the overrides of the environment, which are not validated. -/
def withEnvironment (c : Config) (env : Environment) : Config :=
  { c with
    token? := if env.token.isEmpty then c.token? else some env.token
    baseUrl := if env.baseUrl.isEmpty then c.baseUrl else env.baseUrl }

def textLine (name : String) (value : String) : List Char :=
  name.toList ++ [':', ' '] ++ Yaml.writtenLine value.toList

def numberLine (name : String) (value : Nat) : List Char :=
  name.toList ++ [':', ' '] ++ Nat.toDigits 10 value ++ ['\n']

/-- The content of a file that names every setting; an absent token is left out. -/
def text (c : Config) : List Char :=
  textLine "base_url" c.baseUrl ++
    (match c.token? with
      | none => []
      | some token => textLine "token" token) ++
    numberLine "page_size" c.pageSize.toNat ++
    numberLine "volatile_refresh_secs" c.refreshSeconds.toNat ++
    textLine "user_agent" c.userAgent

def save (c : Config) (place : String) (found : ConfigFile) : Except Error ConfigFile :=
  match found with
  | .blocked => .error (.config ("cannot write " ++ place))
  | .absent | .octets _ => .ok (.octets (c.text.flatMap Utf8.encode))

end Config
end CloudClient
