import FuncMeta.Pattern
import FuncMeta.Text.Numeral

/-!
# Reading patterns

A pattern is written as a regular expression: characters stand for themselves, a dot for any
character of a line; there are classes in brackets, groups, alternatives, repetitions, the two ends
of the text, and escapes. A group may have a name, which has no effect but has to differ from
others; `(?i)` makes the rest of a group ignore case. A text is first cut into tokens, and groups
are put together from these.
-/

namespace FuncMeta.Pattern

/-- Why a text is no pattern. -/
inductive Fault where
  /-- A group is not closed. -/
  | unclosedGroup
  /-- A group is closed that was not opened. -/
  | unopenedGroup
  /-- A class is not closed. -/
  | unclosedClass
  /-- A class is neither one of single characters and ranges nor the complement of one. -/
  | unknownClass
  /-- Nothing stands before a repetition. -/
  | nothingToRepeat
  /-- Nothing follows a backslash. -/
  | loneBackslash
  /-- No escape has this letter. -/
  | unknownEscape (c : Char)
  /-- An escape refers to what a group has matched. -/
  | backReference
  /-- A group looks at what surrounds it. -/
  | lookAround
  /-- A group is of another unknown kind. -/
  | unknownGroup
  /-- The name of a group is not closed, or it is no name. -/
  | groupName
  /-- Two groups have one name. -/
  | repeatedName (name : String)
  /-- A range ends before it starts. -/
  | reversedRange
  /-- A range starts or ends with more than one character. -/
  | rangeOfSets
  /-- A repetition has no number, or one that is too large. -/
  | noCount
  /-- The numbers of a repetition are not closed. -/
  | unclosedCount
  /-- A repetition ends before it starts. -/
  | reversedCounts
deriving DecidableEq, Repr

/-- The text of a fault. -/
def Fault.message : Fault → String
  | unclosedGroup => "unclosed group"
  | unopenedGroup => "unopened group"
  | unclosedClass => "unclosed character class"
  | unknownClass => "unknown kind of character class"
  | nothingToRepeat => "nothing to repeat"
  | loneBackslash => "nothing follows a backslash"
  | unknownEscape c => s!"unknown escape: {c}"
  | backReference => "backreferences are not supported"
  | lookAround => "look-around is not supported"
  | unknownGroup => "unknown kind of group"
  | groupName => "invalid group name"
  | repeatedName name => s!"repeated group name: {name}"
  | reversedRange => "range in reverse order"
  | rangeOfSets => "range of character classes"
  | noCount => "missing or oversized repetition count"
  | unclosedCount => "unclosed repetition count"
  | reversedCounts => "repetition counts in reverse order"

/-- What an escape stands for. -/
inductive Escape where
  /-- One character. -/
  | char (c : Char)
  /-- A set of characters. -/
  | set (s : CharSet)
  /-- A place. -/
  | place (p : Pattern)

/-- Whether a character may be escaped to stand for itself: an ASCII character, but no letter, no
digit and no angle bracket. -/
def isEscapable (c : Char) : Bool :=
  c.toNat < 128 ∧ ¬ c.isAlphanum ∧ c ≠ '<' ∧ c ≠ '>'

/-- What the escape with a character stands for. -/
def escapeOf (c : Char) : Except Fault Escape :=
  match c with
  | 'd' => .ok (.set .digit)
  | 'D' => .ok (.set (.complement .digit))
  | 'w' => .ok (.set .word)
  | 'W' => .ok (.set (.complement .word))
  | 's' => .ok (.set .blank)
  | 'S' => .ok (.set (.complement .blank))
  | 'b' => .ok (.place (.wordEdge false))
  | 'B' => .ok (.place (.wordEdge true))
  | 'A' => .ok (.place .start)
  | 'z' => .ok (.place .stop)
  | 'a' => .ok (.char '\x07')
  | 'f' => .ok (.char '\x0c')
  | 'n' => .ok (.char '\n')
  | 'r' => .ok (.char '\r')
  | 't' => .ok (.char '\t')
  | 'v' => .ok (.char '\x0b')
  | c =>
    if c.isDigit then .error .backReference
    else if isEscapable c then .ok (.char c)
    else .error (.unknownEscape c)

/-- What the escape behind a backslash stands for, and what follows it. -/
def readEscape : List Char → Except Fault (Escape × List Char)
  | [] => .error .loneBackslash
  | c :: rest => (escapeOf c).map (·, rest)

/-! ## Classes -/

/-- One character or escape of a class. -/
def readClassChar : List Char → Except Fault (Escape × List Char)
  | [] => .error .unclosedClass
  | '\\' :: rest => readEscape rest
  | c :: rest => .ok (.char c, rest)

/-- The set that a single member of a class stands for. -/
def Escape.toSet : Escape → Except Fault CharSet
  | char c => .ok (.single c)
  | set s => .ok s
  | place _ => .error .unknownClass

/-- The character that a member stands for at an end of a range. -/
def Escape.rangeEnd : Escape → Except Fault Char
  | char c => .ok c
  | _ => .error .rangeOfSets

/-- The range from one member to another. -/
def rangeOf (first last : Escape) : Except Fault CharSet := do
  let first ← first.rangeEnd
  let last ← last.rangeEnd
  if last < first then .error .reversedRange else return .range first last

/-- The next member of a class: a range if a hyphen follows that does not end the class. -/
def readMember (cs : List Char) : Except Fault (CharSet × List Char) := do
  let (first, rest) ← readClassChar cs
  let single : Except Fault (CharSet × List Char) := first.toSet.map (·, rest)
  match rest with
  | '-' :: ']' :: _ => single
  | '-' :: '-' :: _ => single
  | '-' :: next => do
    let (last, rest) ← readClassChar next
    let set ← rangeOf first last
    return (set, rest)
  | _ => single

/-- The members of a class up to its end, together with those of a given set. There are at most
`limit` of them. -/
def readMembers : (limit : Nat) → (known : CharSet) → List Char →
    Except Fault (CharSet × List Char)
  | 0, _, _ => .error .unclosedClass
  | limit + 1, known, cs =>
    match cs with
    | ']' :: rest => .ok (known, rest)
    | '[' :: _ => .error .unknownClass
    | '&' :: '&' :: _ => .error .unknownClass
    | '-' :: '-' :: _ => .error .unknownClass
    | '~' :: '~' :: _ => .error .unknownClass
    | cs => do
      let (set, rest) ← readMember cs
      readMembers limit (.either known set) rest

/-- The members of a class from its start on. Hyphens stand for themselves there, and so does a
closing bracket in the first place. -/
def readFirstMembers (cs : List Char) : Except Fault (CharSet × List Char) :=
  let rest := cs.dropWhile (· = '-')
  match cs, rest with
  | '-' :: _, _ => readMembers (rest.length + 1) (.single '-') rest
  | ']' :: more, _ => readMembers (more.length + 1) (.single ']') more
  | _, _ => readMembers (rest.length + 1) .none rest

/-- The class behind an opening bracket. -/
def readClass : List Char → Except Fault (CharSet × List Char)
  | '^' :: rest => (readFirstMembers rest).map fun (set, rest) ↦ (.complement set, rest)
  | cs => readFirstMembers cs

/-! ## Repetitions -/

/-- The greatest number in a repetition. -/
def maxCount : Nat := 0xffffffff

/-- A number of a repetition, with blanks around it. -/
def readCount (cs : List Char) : Except Fault (Nat × List Char) :=
  let cs := Blank.trimStart cs
  match Numeral.ofDigits? 10 (cs.takeWhile Char.isDigit) with
  | some n =>
    if n ≤ maxCount then .ok (n, Blank.trimStart (cs.dropWhile Char.isDigit))
    else .error .noCount
  | none => .error .noCount

/-- The numbers of a repetition behind its brace: one, one with a comma for no upper limit, or
two. -/
def readCounts (cs : List Char) : Except Fault ((Nat × Option Nat) × List Char) := do
  let (least, rest) ← readCount cs
  match rest with
  | '}' :: rest => return ((least, some least), rest)
  | ',' :: '}' :: rest => return ((least, none), rest)
  | ',' :: rest => do
    let (most, rest) ← readCount rest
    match rest with
    | '}' :: rest =>
      if most < least then .error .reversedCounts else return ((least, some most), rest)
    | _ => .error .unclosedCount
  | _ => .error .unclosedCount

/-! ## Tokens -/

/-- A part of a text that has a meaning of its own. -/
inductive Token where
  /-- One character of a set. -/
  | set (s : CharSet)
  /-- A place. -/
  | place (p : Pattern)
  /-- The start of a group, which may ignore case or stop ignoring it. -/
  | opening (ignoreCase : Option Bool)
  /-- The start of a group with a name. -/
  | named (name : String)
  /-- The end of a group. -/
  | closing
  /-- What separates alternatives. -/
  | bar
  /-- How often what stands before is repeated. -/
  | again (least : Nat) (most : Option Nat)
  /-- Whether case is ignored from here to the end of the group. -/
  | setting (ignoreCase : Bool)

/-- What follows a repetition. A question mark belongs to it, and only says which match to
prefer. -/
def skipPreference : List Char → List Char
  | '?' :: rest => rest
  | cs => cs

/-- Whether a character may stand in the name of a group, in the first place or elsewhere. -/
def isNameChar (first : Bool) (c : Char) : Bool :=
  c = '_' ∨ c.isAlpha ∨ ¬ first ∧ (c.isDigit ∨ c = '.' ∨ c = '[' ∨ c = ']')

/-- The name of a group up to its closing bracket. -/
def readName (cs : List Char) : Except Fault (Token × List Char) :=
  match cs.takeWhile (· ≠ '>'), cs.dropWhile (· ≠ '>') with
  | c :: name, _ :: rest =>
    if isNameChar true c && name.all (isNameChar false) then
      .ok (.named (String.ofList (c :: name)), rest)
    else .error .groupName
  | _, _ => .error .groupName

/-- The start of a group behind its parenthesis. -/
def readOpening : List Char → Except Fault (Token × List Char)
  | '?' :: '=' :: _ => .error .lookAround
  | '?' :: '!' :: _ => .error .lookAround
  | '?' :: '<' :: '=' :: _ => .error .lookAround
  | '?' :: '<' :: '!' :: _ => .error .lookAround
  | '?' :: '<' :: rest => readName rest
  | '?' :: 'P' :: '<' :: rest => readName rest
  | '?' :: ':' :: rest => .ok (.opening none, rest)
  | '?' :: 'i' :: ':' :: rest => .ok (.opening (some true), rest)
  | '?' :: 'i' :: ')' :: rest => .ok (.setting true, rest)
  | '?' :: '-' :: 'i' :: ':' :: rest => .ok (.opening (some false), rest)
  | '?' :: '-' :: 'i' :: ')' :: rest => .ok (.setting false, rest)
  | '?' :: _ => .error .unknownGroup
  | cs => .ok (.opening none, cs)

/-- The token that an escape makes up. -/
def Escape.toToken : Escape → Token
  | char c => .set (.single c)
  | set s => .set s
  | place p => .place p

/-- The token that starts with a character, and what follows it. -/
def readToken (c : Char) (rest : List Char) : Except Fault (Token × List Char) :=
  match c with
  | '(' => readOpening rest
  | ')' => .ok (.closing, rest)
  | '|' => .ok (.bar, rest)
  | '[' => (readClass rest).map fun (set, rest) ↦ (.set set, rest)
  | '\\' => (readEscape rest).map fun (escape, rest) ↦ (escape.toToken, rest)
  | '.' => .ok (.set .inLine, rest)
  | '^' => .ok (.place .start, rest)
  | '$' => .ok (.place .stop, rest)
  | '*' => .ok (.again 0 none, skipPreference rest)
  | '+' => .ok (.again 1 none, skipPreference rest)
  | '?' => .ok (.again 0 (some 1), skipPreference rest)
  | '{' => (readCounts rest).map fun (counts, rest) ↦
    (.again counts.1 counts.2, skipPreference rest)
  | c => .ok (.set (.single c), rest)

/-- The tokens of a text, of which there are at most `limit`. -/
def readTokens : (limit : Nat) → List Char → Except Fault (List Token)
  | _, [] => .ok []
  | 0, _ :: _ => .ok []
  | limit + 1, c :: rest => do
    let (token, rest) ← readToken c rest
    let tokens ← readTokens limit rest
    return token :: tokens

/-! ## Groups -/

/-- A group of which not all tokens are known. -/
structure Draft where
  /-- What stands before the last bar. -/
  alternatives : Option Pattern
  /-- The parts behind the last bar, the latest first. A setting is a part without a pattern, which
  cannot be repeated. -/
  parts : List (Option Pattern)
  /-- Whether case is ignored. -/
  ignoreCase : Bool

namespace Draft

/-- The group without tokens. -/
def start (ignoreCase : Bool) : Draft where
  alternatives := none
  parts := []
  ignoreCase := ignoreCase

/-- The group with one more part. -/
def push (d : Draft) (p : Pattern) : Draft := { d with parts := some p :: d.parts }

/-- The parts behind the last bar, one after the other. -/
def lastAlternative (d : Draft) : Pattern :=
  (d.parts.filterMap id).foldl (fun later part ↦ .both part later) .empty

/-- The pattern of the group. -/
def pattern (d : Draft) : Pattern :=
  match d.alternatives with
  | some earlier => .either earlier d.lastAlternative
  | none => d.lastAlternative

end Draft

/-- The innermost open group and those around it, the nearest first. -/
structure Drafts where
  /-- The innermost open group. -/
  inner : Draft := .start false
  /-- The groups around it. -/
  outer : List Draft := []
  /-- The names of groups so far. -/
  names : List String := []

/-- The open groups after one more is opened. -/
def Drafts.enter (d : Drafts) (ignoreCase : Bool) : Drafts :=
  { d with inner := .start ignoreCase, outer := d.inner :: d.outer }

/-- The open groups after one more token. -/
def Drafts.add (d : Drafts) : Token → Except Fault Drafts
  | .set s =>
    let s := if d.inner.ignoreCase then s.ignoringCase else s
    .ok { d with inner := d.inner.push (.one s) }
  | .place p => .ok { d with inner := d.inner.push p }
  | .bar =>
    .ok { d with inner := { d.inner with alternatives := some d.inner.pattern, parts := [] } }
  | .again least most =>
    match d.inner.parts with
    | some part :: parts =>
      .ok { d with inner := { d.inner with parts := some (.again part least most) :: parts } }
    | _ => .error .nothingToRepeat
  | .setting ignoreCase =>
    .ok { d with inner := { d.inner with parts := none :: d.inner.parts, ignoreCase } }
  | .opening ignoreCase => .ok (d.enter (ignoreCase.getD d.inner.ignoreCase))
  | .named name =>
    if name ∈ d.names then .error (.repeatedName name)
    else .ok { d.enter d.inner.ignoreCase with names := name :: d.names }
  | .closing =>
    match d.outer with
    | around :: outer => .ok { d with inner := around.push d.inner.pattern, outer }
    | [] => .error .unopenedGroup

/-- The pattern that a text describes. -/
def read (text : String) : Except Fault Pattern := do
  let tokens ← readTokens text.length text.toList
  let drafts ← tokens.foldlM Drafts.add {}
  if drafts.outer.isEmpty then return drafts.inner.pattern else .error .unclosedGroup

end FuncMeta.Pattern
