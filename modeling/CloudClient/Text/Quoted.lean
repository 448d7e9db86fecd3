import CloudClient.Unicode.Category

/-!
# Quoted text for diagnostics

Between double quotes stand the characters of the text, except that quotes, backslashes and line
controls are escaped and whatever cannot be seen on its own is written by number.
-/

namespace CloudClient.Text

def isHidden (c : Char) : Bool := !Unicode.isGraphic c || Unicode.isExtender c

def quotedChar (c : Char) : List Char :=
  match c with
  | '"' => ['\\', '"']
  | '\\' => ['\\', '\\']
  | '\n' => ['\\', 'n']
  | '\r' => ['\\', 'r']
  | '\t' => ['\\', 't']
  | _ =>
    if c.toNat = 0 then ['\\', '0']
    else if isHidden c then
      ['\\', 'u', '\x7b'] ++ Nat.toDigits 16 c.toNat ++ ['\x7d']
    else [c]

/-- A text between double quotes with hidden characters written by number. -/
def quoted (s : String) : String :=
  String.ofList (['"'] ++ s.toList.flatMap quotedChar ++ ['"'])

end CloudClient.Text
