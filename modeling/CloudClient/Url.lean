import CloudClient.Url.Host

/-!
# URLs

An absolute URL is read into its parts and written back in normal form: blanks at the ends and
line breaks dropped, scheme and host in lower case, a default port left out, dot segments resolved
and reserved characters percent-encoded. In the web schemes a backslash separates path segments
like a slash, and any number of slashes leads to the host.
-/

namespace CloudClient

/-- Path segments after the host, or the uninterpreted path of a URL that has none. -/
inductive UrlPath
  | segments (parts : List (List Char))
  | flat (text : List Char)
deriving DecidableEq, Repr

structure Url where
  scheme : List Char
  username : List Char := []
  password : List Char := []
  host? : Option Host := none
  port? : Option Nat := none
  path : UrlPath
  query? : Option (List Char) := none
  fragment? : Option (List Char) := none
deriving DecidableEq, Repr

namespace Url

/-! ## Encoding sets -/

def isControl (c : Char) : Bool := Host.isControl c

def inFragmentSet (c : Char) : Bool :=
  isControl c || c = ' ' || c = '"' || c = '<' || c = '>' || c = '\x60'

def inQuerySet (special : Bool) (c : Char) : Bool :=
  isControl c || c = ' ' || c = '"' || c = '#' || c = '<' || c = '>' || (special && c = '\'')

def inPathSet (c : Char) : Bool :=
  inFragmentSet c || c = '#' || c = '?' || c = '\x7b' || c = '\x7d'

def inUserSet (c : Char) : Bool :=
  inPathSet c || ['/', ':', ';', '=', '@', '[', '\\', ']', '^', '|'].contains c

/-! ## Schemes -/

def webSchemes : List String := ["http", "https", "ws", "wss", "ftp"]

def isWeb (scheme : List Char) : Bool := webSchemes.contains (String.ofList scheme)

def isFile (scheme : List Char) : Bool := scheme = ['f', 'i', 'l', 'e']

def defaultPort? (scheme : List Char) : Option Nat :=
  match String.ofList scheme with
  | "http" | "ws" => some 80
  | "https" | "wss" => some 443
  | "ftp" => some 21
  | _ => none

def isSchemeChar (c : Char) : Bool := c.isAlphanum || c = '+' || c = '-' || c = '.'

def readScheme? (s : List Char) : Option (List Char × List Char) :=
  match s with
  | [] => none
  | c :: _ =>
    if !c.isAlpha then none else
      match s.dropWhile isSchemeChar with
      | ':' :: rest => some ((s.takeWhile isSchemeChar).map Char.toLower, rest)
      | _ => none

/-! ## Path, query and fragment -/

def isSlash (special : Bool) (c : Char) : Bool := c = '/' || (special && c = '\\')

def pieces (special : Bool) : List Char → List (List Char)
  | [] => [[]]
  | c :: rest =>
    if isSlash special c then [] :: pieces special rest
    else match pieces special rest with
      | piece :: more => (c :: piece) :: more
      | [] => [[c]]

/-- A piece with its encoded dots written out, in lower case. -/
def dots : List Char → List Char
  | '%' :: '2' :: e :: rest =>
    if e = 'e' || e = 'E' then '.' :: dots rest else '%' :: '2' :: e :: rest
  | c :: rest => c :: dots rest
  | [] => []

def isDot (piece : List Char) : Bool := dots piece == ['.']
def isDoubleDot (piece : List Char) : Bool := dots piece == ['.', '.']

/-- A drive as the name of a directory: a letter and a colon or a bar. -/
def isDrive : List Char → Bool
  | [letter, mark] => letter.isAlpha && (mark = ':' || mark = '|')
  | _ => false

/-- One segment up, but never out of a drive. -/
def parent (done : List (List Char)) : List (List Char) :=
  if (done.getLast?.map isDrive).getD false then done else done.dropLast

/-- The segment of a piece that is no dots. A drive at the root of a file path has a colon. -/
def segment (isFilePath : Bool) (done : List (List Char)) (piece : List Char) : List Char :=
  if isFilePath && done.isEmpty && isDrive piece then piece.take 1 ++ [':']
  else Percent.encode inPathSet piece

/-- The segments of a path: a dot stays where it is, two dots go up, and either of them at the end
leaves an empty last segment. -/
def resolve (isFilePath : Bool) (done : List (List Char)) : List (List Char) → List (List Char)
  | [] => done
  | piece :: rest =>
    let done' :=
      if isDoubleDot piece then
        if rest.isEmpty then parent done ++ [[]] else parent done
      else if isDot piece then
        if rest.isEmpty then done ++ [[]] else done
      else done ++ [segment isFilePath done piece]
    resolve isFilePath done' rest

def isPathEnd (c : Char) : Bool := c = '?' || c = '#'

def readQuery (special : Bool) (s : List Char) : Option (List Char) × List Char :=
  match s with
  | '?' :: rest =>
    (some (Percent.encode (inQuerySet special) (rest.takeWhile (· != '#'))),
      rest.dropWhile (· != '#'))
  | _ => (none, s)

def readFragment (s : List Char) : Option (List Char) :=
  match s with
  | '#' :: rest => some (Percent.encode inFragmentSet rest)
  | _ => none

def withEnding (u : Url) (special : Bool) (s : List Char) : Url :=
  let (query?, rest) := readQuery special s
  { u with query? := query?, fragment? := readFragment rest }

def withPath (u : Url) (special : Bool) (s : List Char) : Url :=
  let path := s.takeWhile fun c => !isPathEnd c
  withEnding { u with path := .segments (resolve false [] (pieces special path)) } special
    (s.dropWhile fun c => !isPathEnd c)

/-! ## Authority -/

def isAuthorityEnd (special : Bool) (c : Char) : Bool := isPathEnd c || isSlash special c

def splitUser? (authority : List Char) : Option (List Char × List Char) :=
  (Text.splitOnce? '@' authority.reverse).map fun (host, user) => (user.reverse, host.reverse)

def readUser (user : List Char) : List Char × List Char :=
  match Text.splitOnce? ':' user with
  | some (name, password) =>
    (Percent.encode inUserSet name, Percent.encode inUserSet password)
  | none => (Percent.encode inUserSet user, [])

/-- The host text ends at a colon outside brackets. -/
def hostLength (inside : Bool) : List Char → Nat
  | [] => 0
  | c :: rest =>
    if c = ':' && !inside then 0
    else hostLength (if c = '[' then true else if c = ']' then false else inside) rest + 1

def readPort (scheme : List Char) (s : List Char) : Except UrlError (Option Nat × List Char) :=
  let digits := s.takeWhile Char.isDigit
  let rest := s.dropWhile Char.isDigit
  let port := Text.decimalValue digits
  if 65535 < port then .error .invalidPort
  else if !rest.isEmpty && !(rest.head?.map fun c => isPathEnd c || isSlash true c).getD false then
    .error .invalidPort
  else if digits.isEmpty || defaultPort? scheme = some port then .ok (none, rest)
  else .ok (some port, rest)

def readAuthority (scheme : List Char) (s : List Char) : Except UrlError Url := do
  let special := isWeb scheme
  let authority := s.takeWhile fun c => !isAuthorityEnd special c
  let after := s.dropWhile fun c => !isAuthorityEnd special c
  let (user, place) := (splitUser? authority).getD ([], authority)
  if (splitUser? authority).isSome && user.isEmpty && place.isEmpty && !after.isEmpty then
    .error .emptyHost
  let (username, password) := readUser user
  let length := hostLength false place
  let hostText := place.take length
  let rest := place.drop length
  if special && hostText.isEmpty then .error .emptyHost
  let host ← if special then Host.parse hostText else Host.parseNamed hostText
  if hostText.isEmpty && (!rest.isEmpty || !username.isEmpty || !password.isEmpty) then
    .error .emptyHost
  let (port?, rest) ← match rest with
    | ':' :: digits => readPort scheme (digits ++ after)
    | _ => .ok (none, after)
  let u : Url := {
    scheme, username, password, host? := some host, port?, path := .segments [] }
  match rest with
  | [] => .ok (if special then withPath u special [] else u)
  | c :: path =>
    if isSlash special c then .ok (withPath u special path)
    else if special || !isPathEnd c then .ok (withPath u special (c :: path))
    else .ok (withEnding u special (c :: path))

/-! ## Files -/

def withoutEmptyFront : List (List Char) → List (List Char)
  | [] :: part :: rest => withoutEmptyFront (part :: rest)
  | parts => parts

/-- A file under a host. A path that starts with a drive belongs to no host. -/
def ofFile (host : Host) (done : List (List Char)) (s : List Char) : Url :=
  let parts := resolve true done (pieces true (s.takeWhile fun c => !isPathEnd c))
  let host := if (parts.head?.map isDrive).getD false then .named [] else host
  let path := .segments (withoutEmptyFront parts)
  withEnding { scheme := "file".toList, host? := some host, path } true
    (s.dropWhile fun c => !isPathEnd c)

def withoutSlash (s : List Char) : List Char :=
  match s with
  | c :: rest => if isSlash true c then rest else s
  | [] => []

def fileHost? (s : List Char) : Except UrlError (Option Host) :=
  if s.isEmpty then .ok none
  else do
    let host ← Host.parse s
    .ok (if host = .domain "localhost".toList then none else some host)

/-- Two slashes lead to a host or a drive, and the path follows. Where no host is named, the slash
that starts the path makes an empty segment before it. -/
def readFile (s : List Char) : Except UrlError Url := do
  if (s.takeWhile (isSlash true)).length < 2 then .ok (ofFile (.named []) [] (withoutSlash s))
  else
    let rest := s.drop 2
    let place := rest.takeWhile fun c => !isAuthorityEnd true c
    if isDrive place then .ok (ofFile (.named []) [] rest)
    else
      let path := withoutSlash (rest.drop place.length)
      match ← fileHost? place with
      | none => .ok (ofFile (.named []) [[]] path)
      | some host => .ok (ofFile host [] path)

/-! ## Any URL -/

def isEdge (c : Char) : Bool := c.toNat ≤ 0x20

/-- The text without controls and spaces at its ends and without tabs and line breaks. -/
def cleaned (s : List Char) : List Char :=
  (((s.dropWhile isEdge).reverse.dropWhile isEdge).reverse).filter
    fun c => !(c = '\t' || c = '\n' || c = '\r')

def parse (text : String) : Except UrlError Url :=
  match readScheme? (cleaned text.toList) with
  | none => .error .relativeWithoutBase
  | some (scheme, rest) =>
    if isWeb scheme then readAuthority scheme (rest.dropWhile (isSlash true))
    else if isFile scheme then readFile rest
    else match rest with
      | '/' :: '/' :: rest => readAuthority scheme rest
      | '/' :: rest => .ok (withPath { scheme, path := .segments [] } false rest)
      | rest =>
        let path := rest.takeWhile fun c => !isPathEnd c
        .ok (withEnding { scheme, path := .flat (Percent.encode isControl path) } false
          (rest.dropWhile fun c => !isPathEnd c))

/-! ## Writing -/

def userText (u : Url) : List Char :=
  if u.username.isEmpty && u.password.isEmpty then []
  else if u.password.isEmpty then u.username ++ ['@']
  else u.username ++ ':' :: (u.password ++ ['@'])

def authorityText (u : Url) : List Char :=
  match u.host? with
  | some host =>
    '/' :: '/' :: (u.userText ++ host.text ++
      (match u.port? with | none => [] | some p => ':' :: Nat.toDigits 10 p))
  | none =>
    match u.path with
    | .segments ([] :: _ :: _) => ['/', '.']
    | _ => []

def pathText (u : Url) : List Char :=
  match u.path with
  | .segments parts => parts.flatMap fun part => '/' :: part
  | .flat text => text

def queryText (u : Url) : List Char :=
  match u.query? with
  | none => []
  | some q => '?' :: q

def target (u : Url) : String := String.ofList (u.pathText ++ u.queryText)

def text (u : Url) : String :=
  String.ofList (u.scheme ++ ':' :: (u.authorityText ++ u.pathText ++ u.queryText ++
    (match u.fragment? with | none => [] | some f => '#' :: f)))

def withoutUser (u : Url) : Url := { u with username := [], password := [] }

def addPair (u : Url) (name : String) (value : Nat) : Url :=
  let pair := name.toList ++ '=' :: Nat.toDigits 10 value
  { u with query? := match u.query? with
    | none | some [] => some pair
    | some q => some (q ++ '&' :: pair) }

end Url
end CloudClient
