import FuncMeta.Json.Skip

/-!
# Reading values of known kinds

A reader takes the text from some place on and gives a value and what follows it, or the first
fault that it meets. Records are written as objects, with their fields in any order and others
between them, or as lists of their fields in order.
-/

namespace FuncMeta.Json

/-- A reader of values of some kind. -/
abbrev Reader (α : Type) : Type := List Char → Except Fault (α × List Char)

/-- The word at the start of a text, after its minus sign. -/
def readNumber (negative : Bool) : Reader UInt64 := fun cs ↦ do
  let (n, rest) ← readNumeral negative cs
  let word ← n.word
  return (word, rest)

/-- The fault of a read that would give a value of another kind if it gives any. -/
def faultOf {α : Type} : Except Fault α → Fault
  | .ok _ => .mismatch
  | .error fault => fault

/-- What is wrong with a text at whose start a value of another kind stands. Such a value has to be
well formed, but for brackets only the first character counts. -/
def otherKind : List Char → Fault
  | [] => .truncated
  | c :: cs =>
    if c = '[' ∨ c = '{' then .mismatch
    else if c = 'n' then faultOf (expect ['u', 'l', 'l'] cs)
    else if c = 't' then faultOf (expect ['r', 'u', 'e'] cs)
    else if c = 'f' then faultOf (expect ['a', 'l', 's', 'e'] cs)
    else if c = '"' then faultOf (readQuoted cs)
    else if c = '-' then faultOf (readNumber true cs)
    else if c.isDigit then faultOf (readNumber false (c :: cs))
    else .malformed

/-- A word. -/
def readWord : Reader UInt64 := fun cs ↦
  match skipBlanks cs with
  | '-' :: rest => readNumber true rest
  | c :: rest =>
    if c.isDigit then readNumber false (c :: rest) else .error (otherKind (c :: rest))
  | [] => .error .truncated

/-- A truth value. -/
def readBool : Reader Bool := fun cs ↦
  match skipBlanks cs with
  | 't' :: rest => (expect ['r', 'u', 'e'] rest).map (true, ·)
  | 'f' :: rest => (expect ['a', 'l', 's', 'e'] rest).map (false, ·)
  | other => .error (otherKind other)

/-- A text. -/
def readText : Reader String := fun cs ↦
  match skipBlanks cs with
  | '"' :: rest => (readQuoted rest).map fun (chars, rest) ↦ (String.ofList chars, rest)
  | other => .error (otherKind other)

/-- Null or a value. -/
def readNullable {α : Type} (read : Reader α) : Reader (Option α) := fun cs ↦
  match skipBlanks cs with
  | 'n' :: rest => (expect ['u', 'l', 'l'] rest).map (none, ·)
  | other => (read other).map fun (a, rest) ↦ (some a, rest)

/-- Where the next item of a list starts, or nothing at its end. `first` says that no item stands
before. -/
def nextItem? (first : Bool) (cs : List Char) : Except Fault (Option (List Char)) :=
  match skipBlanks cs with
  | [] => .error .truncated
  | c :: rest =>
    if c = ']' then .ok none
    else if first then .ok (some (c :: rest))
    else if c = ',' then
      match skipBlanks rest with
      | [] => .error .truncated
      | ']' :: _ => .error .malformed
      | item => .ok (some item)
    else .error .malformed

/-- What follows the end of a list. -/
def endList (cs : List Char) : Except Fault (List Char) :=
  match skipBlanks cs with
  | [] => .error .truncated
  | ']' :: rest => .ok rest
  | _ => .error .malformed

/-- The items of a list up to its end. There are at most `limit` of them. -/
def readItems {α : Type} (read : Reader α) : (limit : Nat) → (first : Bool) → Reader (List α)
  | 0, _, _ => .error .truncated
  | limit + 1, first, cs => do
    match ← nextItem? first cs with
    | none =>
      let rest ← endList cs
      return ([], rest)
    | some item =>
      let (a, rest) ← read item
      let (as, rest) ← readItems read limit false rest
      return (a :: as, rest)

/-- A list of values. It has fewer items than characters. -/
def readList {α : Type} (read : Reader α) : Reader (List α) := fun cs ↦
  match skipBlanks cs with
  | '[' :: rest => readItems read (rest.length + 1) true rest
  | other => .error (otherKind other)

/-- A field of a record that is being read into a draft. -/
structure Field (σ : Type) where
  /-- The name of the field. -/
  name : String
  /-- Whether the draft has the field already. -/
  isSet : σ → Bool
  /-- Reads the field and says how it enters the draft. -/
  read : Reader (σ → σ)

/-- Where the name of the next member of an object starts, after its quote, or nothing at the end.
`first` says that no member stands before. -/
def nextName? (first : Bool) (cs : List Char) : Except Fault (Option (List Char)) :=
  match skipBlanks cs with
  | [] => .error .truncated
  | c :: rest =>
    if c = '}' then .ok none
    else if first then if c = '"' then .ok (some rest) else .error .malformed
    else if c = ',' then
      match skipBlanks rest with
      | [] => .error .truncated
      | '"' :: name => .ok (some name)
      | _ => .error .malformed
    else .error .malformed

/-- What follows the end of an object. -/
def endObject (cs : List Char) : Except Fault (List Char) :=
  match skipBlanks cs with
  | [] => .error .truncated
  | '}' :: rest => .ok rest
  | _ => .error .malformed

/-- The fields of a record that is written as an object. A field may not occur twice. There are at
most `limit` members. -/
def readMembers {σ : Type} (fields : List (Field σ)) :
    (limit : Nat) → (first : Bool) → (draft : σ) → Reader σ
  | 0, _, _, _ => .error .truncated
  | limit + 1, first, draft, cs => do
    match ← nextName? first cs with
    | none =>
      let rest ← endObject cs
      return (draft, rest)
    | some quoted =>
      let (name, rest) ← readQuoted quoted
      match fields.find? fun field ↦ field.name == String.ofList name with
      | none =>
        let rest ← skipColon rest
        let rest ← skipValue 1 [] rest
        readMembers fields limit false draft rest
      | some field =>
        if field.isSet draft then .error .mismatch
        else
          let rest ← skipColon rest
          let (set, rest) ← field.read rest
          readMembers fields limit false (set draft) rest

/-- The fields of a record that is written as a list. The last ones may be missing. -/
def readElements {σ : Type} : (fields : List (Field σ)) → (first : Bool) → (draft : σ) → Reader σ
  | [], _, draft, cs => (endList cs).map (draft, ·)
  | field :: fields, first, draft, cs => do
    match ← nextItem? first cs with
    | none =>
      let rest ← endList cs
      return (draft, rest)
    | some item =>
      let (set, rest) ← field.read item
      readElements fields false (set draft) rest

/-- A record, read into a draft. -/
def readRecord {σ : Type} (fields : List (Field σ)) (draft : σ) : Reader σ := fun cs ↦
  match skipBlanks cs with
  | '[' :: rest => readElements fields true draft rest
  | '{' :: rest => readMembers fields (rest.length + 1) true draft rest
  | other => .error (otherKind other)

/-- The value that a whole text holds. -/
def readAll {α : Type} (read : Reader α) (text : String) : Except Fault α := do
  let (a, rest) ← read text.toList
  if skipBlanks rest = [] then return a else .error .malformed

end FuncMeta.Json
