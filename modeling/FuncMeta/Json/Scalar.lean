import FuncMeta.Text.Numeral

/-!
# Reading words, quoted texts and numbers

A text is read from its start, and the first fault met decides: the text breaks the grammar, it
ends too early, or what it says so far is no value of the kind that was asked for.

A quoted text is read after its opening quote. Its escapes have to form characters when the text is
wanted; a text that is only skipped may hold halves of surrogate pairs.

A number is a whole part without superfluous zeros, then perhaps a fraction and an exponent. Only
numbers without fraction and exponent can be words. The others have to lie in the range of double
precision, where their digits beyond the first 64 bits count only by their number.
-/

namespace FuncMeta

namespace Json

/-- Why a text could not be read. -/
inductive Fault where
  /-- The text breaks the grammar. -/
  | malformed
  /-- The text ends before the value does. -/
  | truncated
  /-- The text holds a value of another kind. -/
  | mismatch
deriving DecidableEq, Repr

/-- Whether a character separates parts of a text without meaning. -/
def isBlank (c : Char) : Bool := c = ' ' || c = '\n' || c = '\t' || c = '\r'

/-- The text without the blanks at its start. -/
def skipBlanks (cs : List Char) : List Char := cs.dropWhile isBlank

/-- Passing over blanks makes a text no longer. -/
theorem length_skipBlanks_le (cs : List Char) : (skipBlanks cs).length ≤ cs.length :=
  (List.dropWhile_suffix isBlank).length_le

/-- The text after a word that it has to start with. -/
def expect : (word cs : List Char) → Except Fault (List Char)
  | [], cs => .ok cs
  | _ :: _, [] => .error .truncated
  | w :: ws, c :: cs => if c = w then expect ws cs else .error .malformed

/-- What follows a word is no longer than the text that starts with it. -/
theorem length_of_expect {word cs rest : List Char} (h : expect word cs = .ok rest) :
    rest.length ≤ cs.length := by
  fun_induction expect word cs with
  | case1 cs =>
    cases h
    exact Nat.le_refl _
  | case2 => cases h
  | case3 w ws cs ih =>
    have := ih h
    simp
    omega
  | case4 => cases h

/-- The character of an escape of one letter. -/
def simpleEscape? : Char → Option Char
  | '"' => some '"'
  | '\\' => some '\\'
  | '/' => some '/'
  | 'b' => some '\x08'
  | 'f' => some '\x0c'
  | 'n' => some '\n'
  | 'r' => some '\r'
  | 't' => some '\t'
  | _ => none

/-- The number that four hexadecimal digits stand for. -/
def codeUnit? (a b c d : Char) : Option Nat := Numeral.ofDigits? 16 [a, b, c, d]

/-- What is wrong with fewer than four characters where four digits should stand: they may still be
four bytes. -/
def shortUnitFault (cs : List Char) : Fault :=
  if 4 ≤ (String.ofList cs).utf8ByteSize then .malformed else .truncated

/-- What is wrong with a text that should go on with the second half of a surrogate pair. -/
def pairFault : List Char → Fault
  | [] => .truncated
  | ['\\'] => .truncated
  | '\\' :: 'u' :: cs => shortUnitFault cs
  | _ => .malformed

/-- Whether a code unit is the first half of a surrogate pair. -/
def isHighSurrogate (n : Nat) : Bool := 0xd800 ≤ n && n < 0xdc00

/-- Whether a code unit is the second half of a surrogate pair. -/
def isLowSurrogate (n : Nat) : Bool := 0xdc00 ≤ n && n < 0xe000

/-- The character of a surrogate pair. -/
def ofSurrogates (high low : Nat) : Char :=
  .ofNat (0x10000 + (high - 0xd800) * 0x400 + (low - 0xdc00))

/-- Puts a character in front of the text that was read. -/
def prepend (c : Char) (x : Except Fault (List Char × List Char)) :
    Except Fault (List Char × List Char) :=
  x.map fun (chars, rest) ↦ (c :: chars, rest)

/-- The characters up to the closing quote, and what follows it. -/
def readQuoted : List Char → Except Fault (List Char × List Char)
  | [] => .error .truncated
  | '"' :: rest => .ok ([], rest)
  | '\\' :: [] => .error .truncated
  | '\\' :: 'u' :: a :: b :: c :: d :: rest =>
    match codeUnit? a b c d with
    | none => .error .malformed
    | some unit =>
      if isLowSurrogate unit then .error .malformed
      else if isHighSurrogate unit then
        match rest with
        | '\\' :: 'u' :: e :: f :: g :: h :: rest =>
          match codeUnit? e f g h with
          | none => .error .malformed
          | some low =>
            if isLowSurrogate low then prepend (ofSurrogates unit low) (readQuoted rest)
            else .error .malformed
        | rest => .error (pairFault rest)
      else prepend (.ofNat unit) (readQuoted rest)
  | '\\' :: 'u' :: rest => .error (shortUnitFault rest)
  | '\\' :: e :: rest =>
    match simpleEscape? e with
    | some c => prepend c (readQuoted rest)
    | none => .error .malformed
  | c :: rest => if c.toNat < 0x20 then .error .malformed else prepend c (readQuoted rest)

/-- What follows the closing quote. -/
def skipQuoted : List Char → Except Fault (List Char)
  | [] => .error .truncated
  | '"' :: rest => .ok rest
  | '\\' :: [] => .error .truncated
  | '\\' :: 'u' :: a :: b :: c :: d :: rest =>
    match codeUnit? a b c d with
    | none => .error .malformed
    | some _ => skipQuoted rest
  | '\\' :: 'u' :: rest => .error (shortUnitFault rest)
  | '\\' :: e :: rest =>
    match simpleEscape? e with
    | some _ => skipQuoted rest
    | none => .error .malformed
  | c :: rest => if c.toNat < 0x20 then .error .malformed else skipQuoted rest

/-- What follows a quoted text is no longer than what follows its opening quote. -/
theorem length_of_skipQuoted {cs rest : List Char} (h : skipQuoted cs = .ok rest) :
    rest.length ≤ cs.length := by
  fun_induction skipQuoted cs <;> simp_all <;> omega

/-- The parts of a number, as they are written. -/
structure Numeral where
  /-- Whether a minus sign stands in front. -/
  negative : Bool
  /-- The digits of the whole part. -/
  whole : List Char
  /-- The digits after the point, if there is one. -/
  fraction : Option (List Char)
  /-- Whether the exponent is negative, and its digits, if there is one. -/
  exponent : Option (Bool × List Char)
deriving DecidableEq, Repr

/-- A run of digits, of which there has to be one, and what follows. -/
def digits (cs : List Char) : Except Fault (List Char × List Char) :=
  match cs.takeWhile Char.isDigit, cs with
  | [], [] => .error .truncated
  | [], _ => .error .malformed
  | ds, cs => .ok (ds, cs.dropWhile Char.isDigit)

/-- The digits of a whole part, which starts with zero only if it is zero. -/
def wholePart (cs : List Char) : Except Fault (List Char × List Char) := do
  let (ds, rest) ← digits cs
  match ds with
  | '0' :: _ :: _ => .error .malformed
  | ds => .ok (ds, rest)

/-- The digits after a point, if there is a point. -/
def fractionPart : List Char → Except Fault (Option (List Char) × List Char)
  | '.' :: cs => (digits cs).map fun (ds, rest) ↦ (some ds, rest)
  | cs => .ok (none, cs)

/-- A sign and what follows. -/
def sign : List Char → Bool × List Char
  | '-' :: cs => (true, cs)
  | '+' :: cs => (false, cs)
  | cs => (false, cs)

/-- The sign and the digits of an exponent, if there is one. -/
def exponentPart : List Char → Except Fault (Option (Bool × List Char) × List Char)
  | c :: cs =>
    if c = 'e' ∨ c = 'E' then
      (digits (sign cs).2).map fun (ds, rest) ↦ (some ((sign cs).1, ds), rest)
    else .ok (none, c :: cs)
  | [] => .ok (none, [])

/-- The parts of the number at the start of a text, after its minus sign. -/
def readNumeral (negative : Bool) (cs : List Char) : Except Fault (Numeral × List Char) := do
  let (whole, cs) ← wholePart cs
  let (fraction, cs) ← fractionPart cs
  let (exponent, cs) ← exponentPart cs
  return ({ negative, whole, fraction, exponent }, cs)

/-- Appends digits to a significand while it stays a word. The second number counts the digits left
over. -/
def extend (significand : Nat) : List Char → Nat × Nat
  | [] => (significand, 0)
  | c :: cs =>
    let longer := significand * 10 + (c.toNat - '0'.toNat)
    if longer < Word.limit then extend longer cs else (significand, cs.length + 1)

/-- The number that a run of digits stands for. -/
def ofDigits (ds : List Char) : Nat := ds.foldl (fun n c ↦ n * 10 + (c.toNat - '0'.toNat)) 0

/-- A natural number rounded to the 53 bits of a double, to even at a tie. -/
def roundToDouble (n : Nat) : Nat :=
  if n < 0x20000000000000 then n
  else
    let unit := 1 <<< (n.log2 - 52)
    let low := n / unit
    let rest := n % unit
    if unit < 2 * rest ∨ (2 * rest = unit ∧ low % 2 = 1) then (low + 1) * unit else low * unit

/-- The least number that is not rounded to a double: one half unit above the largest double. -/
def tooLarge : Nat := 1 <<< 1024 - 1 <<< 970

/-- Whether the product of a significand and a power of ten is too large for a double. -/
def exceedsDouble (significand : Nat) (exponent : Int) : Bool :=
  match exponent with
  | .ofNat e =>
    if significand = 0 then false
    else if 308 < e then true
    else tooLarge ≤ roundToDouble significand * roundToDouble (Nat.pow 10 e)
  | .negSucc _ => false

namespace Numeral

/-- The significand and the exponent of a number. -/
def scaled (n : Numeral) : Nat × Int :=
  let (high, left) := extend 0 n.whole
  let (significand, shift) : Nat × Int :=
    match n.fraction with
    | none => (high, left)
    | some ds =>
      let (significand, extra) := extend high ds
      (significand, left - (ds.length - extra : Nat))
  match n.exponent with
  | none => (significand, shift)
  | some (true, ds) => (significand, shift - ofDigits ds)
  | some (false, ds) => (significand, shift + ofDigits ds)

/-- The word that a number is. Other numbers in the range of doubles are of another kind. -/
def word (n : Numeral) : Except Fault UInt64 :=
  if n.fraction.isNone && n.exponent.isNone && (extend 0 n.whole).2 == 0 then
    if n.negative then .error .mismatch else .ok (.ofNat (extend 0 n.whole).1)
  else if exceedsDouble n.scaled.1 n.scaled.2 then .error .malformed
  else .error .mismatch

end Numeral

private theorem length_of_digits {cs ds rest : List Char} (h : digits cs = .ok (ds, rest)) :
    rest.length ≤ cs.length := by
  unfold digits at h
  split at h
  · cases h
  · cases h
  · cases h
    exact (List.dropWhile_suffix _).length_le

private theorem length_of_wholePart {cs ds rest : List Char} (h : wholePart cs = .ok (ds, rest)) :
    rest.length ≤ cs.length := by
  simp only [wholePart, bind, Except.bind] at h
  split at h
  · cases h
  · next x hx =>
    have := length_of_digits hx
    split at h <;> cases h
    exact this

private theorem length_of_fractionPart {cs rest : List Char} {f : Option (List Char)}
    (h : fractionPart cs = .ok (f, rest)) : rest.length ≤ cs.length := by
  unfold fractionPart at h
  split at h
  · next cs =>
    cases hd : digits cs with
    | error e => simp [hd, Except.map] at h
    | ok x =>
      simp only [hd, Except.map, Except.ok.injEq, Prod.mk.injEq] at h
      have := length_of_digits hd
      simp [← h.2]
      omega
  · cases h
    exact Nat.le_refl _

private theorem length_sign_le (cs : List Char) : (sign cs).2.length ≤ cs.length := by
  unfold sign
  split <;> simp

private theorem length_of_exponentPart {cs rest : List Char} {e : Option (Bool × List Char)}
    (h : exponentPart cs = .ok (e, rest)) : rest.length ≤ cs.length := by
  unfold exponentPart at h
  split at h
  · next c cs =>
    split at h
    · cases hd : digits (sign cs).2 with
      | error e => simp [hd, Except.map] at h
      | ok x =>
        simp only [hd, Except.map, Except.ok.injEq, Prod.mk.injEq] at h
        have := length_of_digits hd
        have := length_sign_le cs
        simp [← h.2]
        omega
    · cases h
      exact Nat.le_refl _
  · cases h
    exact Nat.le_refl _

/-- What follows a number is no longer than the text that starts with it. -/
theorem length_of_readNumeral {negative : Bool} {cs rest : List Char} {n : Numeral}
    (h : readNumeral negative cs = .ok (n, rest)) : rest.length ≤ cs.length := by
  simp only [readNumeral, bind, Except.bind] at h
  split at h
  · cases h
  · next x hx =>
    split at h
    · cases h
    · next y hy =>
      split at h
      · cases h
      · next z hz =>
        cases h
        have := length_of_wholePart hx
        have := length_of_fractionPart hy
        have := length_of_exponentPart hz
        omega

end Json

end FuncMeta
