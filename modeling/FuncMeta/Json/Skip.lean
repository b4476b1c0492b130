import FuncMeta.Json.Scalar

/-!
# Skipping values

A value that nobody asked for is skipped: its brackets have to match and its parts have to be well
formed, but its numbers may be of any size. Brackets may not be nested too deeply, although skipping
keeps the open brackets in a list and needs no limit on them.
-/

namespace FuncMeta.Json

/-- An open bracket. -/
inductive Bracket where
  /-- The bracket of a list. -/
  | list
  /-- The bracket of an object. -/
  | object
deriving DecidableEq, Repr

/-- The bracket that a character opens. -/
def Bracket.opened? : Char → Option Bracket
  | '[' => some list
  | '{' => some object
  | _ => none

/-- The character that closes a bracket. -/
def Bracket.close : Bracket → Char
  | list => ']'
  | object => '}'

/-- The greatest number of brackets that may be open. It holds for values that nobody asked for as
well, where a reader that passes over them without recursion has no limit. -/
def maxDepth : Nat := 127

/-- What follows a value that is no bracket and whose first character is given. -/
def skipScalar (c : Char) (cs : List Char) : Except Fault (List Char) :=
  let number (negative : Bool) (digits : List Char) : Except Fault (List Char) :=
    match readNumeral negative digits with
    | .ok (_, rest) => .ok rest
    | .error _ => .error .malformed
  if c = 'n' then expect ['u', 'l', 'l'] cs
  else if c = 't' then expect ['r', 'u', 'e'] cs
  else if c = 'f' then expect ['a', 'l', 's', 'e'] cs
  else if c = '"' then skipQuoted cs
  else if c = '-' then number true cs
  else if c.isDigit then number false (c :: cs)
  else .error .malformed

/-- What follows the colon that stands between a name and a value. -/
def skipColon (cs : List Char) : Except Fault (List Char) :=
  match skipBlanks cs with
  | [] => .error .truncated
  | ':' :: rest => .ok rest
  | _ => .error .malformed

/-- What follows the name and the colon in front of a value in an object; in a list nothing stands
there. -/
def Bracket.skipLead : Bracket → List Char → Except Fault (List Char)
  | list, cs => .ok cs
  | object, cs =>
    match skipBlanks cs with
    | [] => .error .truncated
    | '"' :: rest => skipQuoted rest >>= skipColon
    | _ => .error .malformed

private theorem length_of_skipColon {cs rest : List Char} (h : skipColon cs = .ok rest) :
    rest.length ≤ cs.length := by
  have hb := length_skipBlanks_le cs
  unfold skipColon at h
  split at h
  · cases h
  · next heq =>
    cases h
    rw [heq] at hb
    simp at hb
    omega
  · cases h

private theorem length_of_skipLead {b : Bracket} {cs rest : List Char}
    (h : b.skipLead cs = .ok rest) :
    rest.length ≤ cs.length := by
  have hb := length_skipBlanks_le cs
  unfold Bracket.skipLead at h
  split at h
  · cases h
    exact Nat.le_refl _
  · split at h
    · cases h
    · next heq =>
      rw [heq] at hb
      simp only [bind, Except.bind] at h
      split at h
      · cases h
      · next hq =>
        have := length_of_skipQuoted hq
        have := length_of_skipColon h
        simp at hb
        omega
    · cases h

/-- A value that is no bracket takes at least its first character. -/
theorem length_of_skipScalar {c : Char} {cs rest : List Char} (h : skipScalar c cs = .ok rest) :
    rest.length ≤ cs.length + 1 := by
  unfold skipScalar at h
  simp only at h
  split at h
  · have := length_of_expect h
    omega
  split at h
  · have := length_of_expect h
    omega
  split at h
  · have := length_of_expect h
    omega
  split at h
  · have := length_of_skipQuoted h
    omega
  split at h
  · split at h
    · next hn =>
      cases h
      have := length_of_readNumeral hn
      omega
    · cases h
  split at h
  · split at h
    · next hn =>
      cases h
      simpa using length_of_readNumeral hn
    · cases h
  · cases h

private theorem length_lt_of_skipBlanks {c : Char} {cs rest : List Char}
    (h : skipBlanks cs = c :: rest) :
    rest.length < cs.length := by
  have hle := length_skipBlanks_le cs
  rw [h, List.length_cons] at hle
  omega

mutual

/-- What follows a value and all that stands up to the end of the open brackets. `depth` counts the
brackets that are open around them, and together with the open ones it may not exceed `maxDepth`: a
value that is only skipped is refused if it is nested too deeply. -/
def skipValue (depth : Nat) (brackets : List Bracket) (cs : List Char) :
    Except Fault (List Char) :=
  match _hb : skipBlanks cs with
  | [] => .error .truncated
  | c :: rest =>
    match Bracket.opened? c with
    | some b =>
      if maxDepth ≤ depth + brackets.length then .error .malformed
      else skipRest depth true (b :: brackets) rest
    | none =>
      match _hs : skipScalar c rest with
      | .error e => .error e
      | .ok rest => skipRest depth false brackets rest
termination_by 3 * cs.length + 1
decreasing_by
  · have hlen := length_lt_of_skipBlanks _hb
    rw [Bool.toNat_true]
    omega
  · have hlen := length_lt_of_skipBlanks _hb
    have hrest := length_of_skipScalar _hs
    rw [Bool.toNat_false]
    omega

/-- What follows all that stands up to the end of the open brackets. `fresh` says that nothing
stands yet in the innermost one. -/
def skipRest (depth : Nat) (fresh : Bool) (brackets : List Bracket) (cs : List Char) :
    Except Fault (List Char) :=
  match brackets with
  | [] => .ok cs
  | b :: outer =>
    match _hb : skipBlanks cs with
    | [] => .error .truncated
    | c :: rest =>
      if c = b.close then skipRest depth false outer rest
      else if fresh then
        match _hl : b.skipLead (c :: rest) with
        | .error e => .error e
        | .ok rest => skipValue depth (b :: outer) rest
      else if c = ',' then
        match _hl : b.skipLead rest with
        | .error e => .error e
        | .ok rest => skipValue depth (b :: outer) rest
      else .error .malformed
termination_by 3 * cs.length + 2 * fresh.toNat
decreasing_by
  · have hlen := length_lt_of_skipBlanks _hb
    rw [Bool.toNat_false]
    omega
  · have hlen := length_lt_of_skipBlanks _hb
    have hrest := length_of_skipLead _hl
    rw [List.length_cons] at hrest
    rw [‹fresh = true›, Bool.toNat_true]
    omega
  · have hlen := length_lt_of_skipBlanks _hb
    have hrest := length_of_skipLead _hl
    omega

end

end FuncMeta.Json
