import FuncMeta.Text.Numeral

/-!
# JSON values and their text

Values as reports and configurations hold them: numbers are integers, and the members of an object
keep their order. `write` gives the text on one line or, indented by two blanks for each level, on
a line for each item.
-/

namespace FuncMeta

/-- A JSON value. -/
inductive Json where
  /-- The value null. -/
  | null
  /-- A truth value. -/
  | bool (value : Bool)
  /-- An integer. -/
  | number (value : Int)
  /-- A text. -/
  | text (value : String)
  /-- A list of values. -/
  | list (items : List Json)
  /-- An object: its members in order, each with its name. -/
  | object (members : List (String × Json))

namespace Json

/-- How the text of a value is laid out. -/
inductive Layout where
  /-- All on one line. -/
  | compact
  /-- Each item on a line of its own. -/
  | pretty
deriving DecidableEq, Repr

/-- What stands before an item at some depth. -/
def Layout.lineBreak (layout : Layout) (depth : Nat) : List Char :=
  match layout with
  | compact => []
  | pretty => '\n' :: List.replicate (2 * depth) ' '

/-- What stands between the name of a member and its value. -/
def Layout.colon : Layout → List Char
  | compact => [':']
  | pretty => [':', ' ']

/-- How a character is written between quotes. Only quotes, backslashes and control characters are
escaped. -/
def escape (c : Char) : List Char :=
  if c = '"' then ['\\', '"']
  else if c = '\\' then ['\\', '\\']
  else if c = '\x08' then ['\\', 'b']
  else if c = '\x0c' then ['\\', 'f']
  else if c = '\n' then ['\\', 'n']
  else if c = '\r' then ['\\', 'r']
  else if c = '\t' then ['\\', 't']
  else if c.toNat < 0x20 then ['\\', 'u'] ++ (Numeral.hex 4 c.toNat).toList
  else [c]

/-- A text between quotes. -/
def quote (text : String) : List Char := '"' :: text.toList.flatMap escape ++ ['"']

mutual

/-- The characters of a value that stands at some depth. -/
def write (layout : Layout) (depth : Nat) : Json → List Char
  | null => ['n', 'u', 'l', 'l']
  | bool true => ['t', 'r', 'u', 'e']
  | bool false => ['f', 'a', 'l', 's', 'e']
  | number n => (toString n).toList
  | text s => quote s
  | list [] => ['[', ']']
  | list (v :: vs) =>
    '[' :: (layout.lineBreak (depth + 1) ++ write layout (depth + 1) v ++
      writeItems layout (depth + 1) vs ++ layout.lineBreak depth ++ [']'])
  | object [] => ['{', '}']
  | object ((k, v) :: ms) =>
    '{' :: (layout.lineBreak (depth + 1) ++ quote k ++ layout.colon ++
      write layout (depth + 1) v ++ writeMembers layout (depth + 1) ms ++
      layout.lineBreak depth ++ ['}'])

/-- The characters of the further items of a list. -/
def writeItems (layout : Layout) (depth : Nat) : List Json → List Char
  | [] => []
  | v :: vs =>
    ',' :: (layout.lineBreak depth ++ write layout depth v ++ writeItems layout depth vs)

/-- The characters of the further members of an object. -/
def writeMembers (layout : Layout) (depth : Nat) : List (String × Json) → List Char
  | [] => []
  | (k, v) :: ms =>
    ',' :: (layout.lineBreak depth ++ quote k ++ layout.colon ++ write layout depth v ++
      writeMembers layout depth ms)

end

/-- The text of a value. -/
def render (layout : Layout) (v : Json) : String := String.ofList (write layout 0 v)

/-- A natural number as a value. -/
def nat (n : Nat) : Json := number n

/-- A value that may be absent; null if it is. -/
def ofOption {α : Type} (f : α → Json) : Option α → Json
  | some a => f a
  | none => null

end Json

end FuncMeta
