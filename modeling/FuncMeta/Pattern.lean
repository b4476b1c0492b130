import FuncMeta.Text.Case

/-!
# Patterns

A pattern describes parts of a text, place by place with sets of characters. It is matched against
all places at once: `Pattern.reach` maps the places where a match may start to the places where one
may end. A set of places is a number whose bit at index `i` says whether the place in front of the
character at index `i` is in it.
-/

namespace FuncMeta

/-- A set of characters. -/
inductive CharSet where
  /-- No character. -/
  | none
  /-- The characters from the first to the last one. -/
  | range (first last : Char)
  /-- The characters that differ only in case from one of a range. -/
  | caseless (first last : Char)
  /-- Decimal digits. -/
  | digit
  /-- Word characters. -/
  | word
  /-- White space. -/
  | blank
  /-- The characters of either set. -/
  | either (a b : CharSet)
  /-- The characters outside a set. -/
  | complement (a : CharSet)
deriving DecidableEq, Repr

namespace CharSet

/-- The set of one character. -/
def single (c : Char) : CharSet := range c c

/-- The characters that may stand in a line. -/
def inLine : CharSet := complement (single '\n')

/-- Whether a character is in a set. -/
def contains : CharSet → Char → Bool
  | none, _ => false
  | range first last, c => first ≤ c ∧ c ≤ last
  | caseless first last, c => (CaseFold.variants c).any fun v ↦ first ≤ v ∧ v ≤ last
  | digit, c => isDecimalDigit c
  | word, c => isWordChar c
  | blank, c => Blank.isBlank c
  | either a b, c => a.contains c || b.contains c
  | complement a, c => !a.contains c

/-- The set with all that differs only in case from its characters. A complement is taken after
that. -/
def ignoringCase : CharSet → CharSet
  | range first last => caseless first last
  | either a b => either a.ignoringCase b.ignoringCase
  | complement a => complement a.ignoringCase
  | other => other

end CharSet

/-- A description of parts of a text. -/
inductive Pattern where
  /-- No character. -/
  | empty
  /-- One character of a set. -/
  | one (set : CharSet)
  /-- The start of the text. -/
  | start
  /-- The end of the text. -/
  | stop
  /-- A place with a word character on one side only, or any place but these. -/
  | wordEdge (inverted : Bool)
  /-- One part and then another. -/
  | both (first second : Pattern)
  /-- One of two parts. -/
  | either (a b : Pattern)
  /-- A part again and again, at least and at most so many times. -/
  | again (part : Pattern) (least : Nat) (most : Option Nat)
deriving DecidableEq, Repr

namespace Pattern

/-- The set of the places that are marked in a list. -/
def placesOf : List Bool → Nat
  | [] => 0
  | b :: bs => b.toNat + 2 * placesOf bs

/-- Whether each place of the rest of a text has a word character on one side only, given whether
one stands before it. -/
def wordEdges (before : Bool) : List Char → List Bool
  | [] => [before]
  | c :: cs => (before != isWordChar c) :: wordEdges (isWordChar c) cs

/-- The places where a match may end that starts at one of the given places. A part that has been
matched more often than the text has places has been matched with no character in between, so that
it makes no difference how often. -/
def reach (text : List Char) : Pattern → Nat → Nat
  | empty, places => places
  | one set, places => (places &&& placesOf (text.map set.contains)) <<< 1
  | start, places => places &&& 1
  | stop, places => places &&& 1 <<< text.length
  | wordEdge inverted, places =>
    places &&& placesOf ((wordEdges false text).map fun edge ↦ edge != inverted)
  | both first second, places => reach text second (reach text first places)
  | either a b, places => reach text a places ||| reach text b places
  | again part least most, places =>
    let enough := text.length + 1
    let more := (most.map (· - least)).getD enough
    let required := Nat.repeat (reach text part) (min least enough) places
    Nat.repeat (fun reached ↦ reached ||| reach text part reached) (min more enough) required

/-- Whether a pattern describes some part of a text. -/
def occursIn (p : Pattern) (text : String) : Bool :=
  p.reach text.toList (1 <<< (text.length + 1) - 1) ≠ 0

end Pattern

end FuncMeta
