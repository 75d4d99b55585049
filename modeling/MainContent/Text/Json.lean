import MainContent.Text.Ascii

/-!
# JSON documents

JSON values and their compact text. The members of an object keep their order.
-/

namespace MainContent.Text

/-- A JSON value. -/
inductive Json where
  /-- The absence of a value. -/
  | null
  /-- A truth value. -/
  | bool (value : Bool)
  /-- A number, as it is written. -/
  | number (numeral : String)
  /-- A text. -/
  | text (value : String)
  /-- A list of values. -/
  | list (items : List Json)
  /-- Named values in order. -/
  | record (members : List (String × Json))
  deriving Inhabited

namespace Json

/-- A character inside the quotes of a text. -/
def escapeChar (c : Char) : List Char :=
  if c = '"' then ['\\', '"']
  else if c = '\\' then ['\\', '\\']
  else if c = '\n' then ['\\', 'n']
  else if c = '\r' then ['\\', 'r']
  else if c = '\t' then ['\\', 't']
  else if c = '\x08' then ['\\', 'b']
  else if c = '\x0c' then ['\\', 'f']
  else if c.toNat < 0x20 then
    ['\\', 'u', '0', '0', Char.ofNat (48 + c.toNat / 16),
      (lowerHex (c.toNat % 16)).headD '0']
  else [c]

/-- A text between quotes. -/
def quote (s : String) : String :=
  String.ofList ('"' :: s.toList.flatMap escapeChar ++ ['"'])

mutual

/-- The compact text of a value. -/
def shown : Json → String
  | .null => "null"
  | .number numeral => numeral
  | .bool true => "true"
  | .bool false => "false"
  | .text s => quote s
  | .list items => "[" ++ showItems items ++ "]"
  | .record members => "\x7b" ++ showMembers members ++ "\x7d"

/-- Values with commas between them. -/
def showItems : List Json → String
  | [] => ""
  | [j] => shown j
  | j :: js => shown j ++ "," ++ showItems js

/-- Named values with commas between them. -/
def showMembers : List (String × Json) → String
  | [] => ""
  | [(n, j)] => quote n ++ ":" ++ shown j
  | (n, j) :: ms => quote n ++ ":" ++ shown j ++ "," ++ showMembers ms

end

/-- The first member of an object with a name. -/
def member? (j : Json) (name : String) : Option Json :=
  match j with
  | .record members => (members.find? (·.1 == name)).map (·.2)
  | _ => none

/-- The text that a value is. -/
def text? : Json → Option String
  | .text s => some s
  | _ => none

/-- The items of a list; none of any other value. -/
def items : Json → List Json
  | .list js => js
  | _ => []

end Json

end MainContent.Text
