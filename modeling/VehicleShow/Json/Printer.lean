import VehicleShow.Json.Value

/-! # Writing JSON

`compact` writes a value without any blank; `pretty` puts every item and member on a line of its
own, indented by two spaces a level. -/
set_option autoImplicit false
namespace VehicleShow.Json

/-! ## Strings -/

def hexChar (n : Nat) : Char := if n < 10 then Char.ofNat (48 + n) else Char.ofNat (87 + n)

def escape (c : Char) : List Char :=
  match c with
  | '"' => ['\\', '"']
  | '\\' => ['\\', '\\']
  | '\x08' => ['\\', 'b']
  | '\t' => ['\\', 't']
  | '\n' => ['\\', 'n']
  | '\x0c' => ['\\', 'f']
  | '\r' => ['\\', 'r']
  | _ =>
      if c.toNat < 0x20 then
        ['\\', 'u', '0', '0', hexChar (c.toNat / 16), hexChar (c.toNat % 16)]
      else [c]

def quoted (text : String) : List Char :=
  '"' :: text.toList.flatMap escape ++ ['"']

def boolText (value : Bool) : List Char :=
  if value then ['t', 'r', 'u', 'e'] else ['f', 'a', 'l', 's', 'e']

/-! ## Compact -/

mutual

def compactText : Json → List Char
  | .null => ['n', 'u', 'l', 'l']
  | .bool value => boolText value
  | .num numeral => numeral.text
  | .str content => quoted content
  | .arr items => '[' :: compactItems items
  | .obj members => '{' :: compactMembers members

/-- The items of an array and its closing bracket. -/
def compactItems : List Json → List Char
  | [] => [']']
  | [item] => compactText item ++ [']']
  | item :: rest => compactText item ++ ',' :: compactItems rest

def compactMembers : List (String × Json) → List Char
  | [] => ['}']
  | [(key, value)] => quoted key ++ ':' :: compactText value ++ ['}']
  | (key, value) :: rest => quoted key ++ ':' :: compactText value ++ ',' :: compactMembers rest

end

def compact (json : Json) : String := String.ofList json.compactText

/-! ## Pretty -/

def newline (level : Nat) : List Char := '\n' :: List.replicate (2 * level) ' '

mutual

def prettyText (level : Nat) : Json → List Char
  | .null => ['n', 'u', 'l', 'l']
  | .bool value => boolText value
  | .num numeral => numeral.text
  | .str content => quoted content
  | .arr [] => ['[', ']']
  | .arr (item :: rest) => '[' :: prettyItems level (item :: rest)
  | .obj [] => ['{', '}']
  | .obj (member :: rest) => '{' :: prettyMembers level (member :: rest)

def prettyItems (level : Nat) : List Json → List Char
  | [] => []
  | [item] => newline (level + 1) ++ prettyText (level + 1) item ++ newline level ++ [']']
  | item :: rest =>
      newline (level + 1) ++ prettyText (level + 1) item ++ ',' :: prettyItems level rest

def prettyMembers (level : Nat) : List (String × Json) → List Char
  | [] => []
  | [(key, value)] =>
      newline (level + 1) ++ quoted key ++ ':' :: ' ' :: prettyText (level + 1) value
        ++ newline level ++ ['}']
  | (key, value) :: rest =>
      newline (level + 1) ++ quoted key ++ ':' :: ' ' :: prettyText (level + 1) value
        ++ ',' :: prettyMembers level rest

end

def pretty (json : Json) : String := String.ofList (json.prettyText 0)

end VehicleShow.Json
