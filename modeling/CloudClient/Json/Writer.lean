import CloudClient.Binary64.Shortest
import CloudClient.Json

/-!
# Written JSON

The compact form has no blanks; the indented form puts each member on a line of its own, two
spaces deeper than its container, and keeps empty containers closed. Only quotes, backslashes and
control characters below the space are escaped.
-/

namespace CloudClient

def Number.text : Number → List Char
  | .int (.ofNat n) => Nat.toDigits 10 n
  | .int (.negSucc n) => '-' :: Nat.toDigits 10 (n + 1)
  | .float x => x.text

namespace Json

def escape (c : Char) : List Char :=
  if c = '"' then ['\\', '"']
  else if c = '\\' then ['\\', '\\']
  else if c = '\n' then ['\\', 'n']
  else if c = '\r' then ['\\', 'r']
  else if c = '\t' then ['\\', 't']
  else if c = '\x08' then ['\\', 'b']
  else if c = '\x0c' then ['\\', 'f']
  else if c.toNat < 0x20 then
    ['\\', 'u', '0', '0', Text.hexLower (c.toNat / 16), Text.hexLower (c.toNat % 16)]
  else [c]

def stringText (s : String) : List Char := '"' :: (s.toList.flatMap escape ++ ['"'])

def scalarText : Json → List Char
  | .null => ['n', 'u', 'l', 'l']
  | .bool true => ['t', 'r', 'u', 'e']
  | .bool false => ['f', 'a', 'l', 's', 'e']
  | .num n => n.text
  | .str s => stringText s
  | _ => []

mutual
def text : Json → List Char
  | .arr items => '[' :: (itemsText items ++ [']'])
  | .obj fields => '\x7b' :: (fieldsText fields ++ ['\x7d'])
  | v => scalarText v
termination_by structural v => v
def itemsText : List Json → List Char
  | [] => []
  | x :: xs => text x ++ restText xs
termination_by structural xs => xs
def restText : List Json → List Char
  | [] => []
  | x :: xs => ',' :: (text x ++ restText xs)
termination_by structural xs => xs
def fieldsText : List (String × Json) → List Char
  | [] => []
  | (k, v) :: rest => stringText k ++ ':' :: (text v ++ restFieldsText rest)
termination_by structural xs => xs
def restFieldsText : List (String × Json) → List Char
  | [] => []
  | (k, v) :: rest => ',' :: (stringText k ++ ':' :: (text v ++ restFieldsText rest))
termination_by structural xs => xs
end

def compact (v : Json) : String := String.ofList v.text

def newline (depth : Nat) : List Char := '\n' :: List.replicate (2 * depth) ' '

mutual
def indentedText (depth : Nat) : Json → List Char
  | .arr [] => ['[', ']']
  | .arr (x :: xs) =>
    '[' :: (newline (depth + 1) ++ indentedText (depth + 1) x ++ restIndented (depth + 1) xs ++
      newline depth ++ [']'])
  | .obj [] => ['\x7b', '\x7d']
  | .obj ((k, v) :: rest) =>
    '\x7b' :: (newline (depth + 1) ++ stringText k ++ [':', ' '] ++ indentedText (depth + 1) v ++
      restFieldsIndented (depth + 1) rest ++ newline depth ++ ['\x7d'])
  | v => scalarText v
termination_by structural v => v
def restIndented (depth : Nat) : List Json → List Char
  | [] => []
  | x :: xs => ',' :: (newline depth ++ indentedText depth x ++ restIndented depth xs)
termination_by structural xs => xs
def restFieldsIndented (depth : Nat) : List (String × Json) → List Char
  | [] => []
  | (k, v) :: rest =>
    ',' :: (newline depth ++ stringText k ++ [':', ' '] ++ indentedText depth v ++
      restFieldsIndented depth rest)
termination_by structural xs => xs
end

def indented (v : Json) : String := String.ofList (indentedText 0 v)

end Json
end CloudClient
