import FuncMeta.Word

/-!
# Numerals

Writing a number in hexadecimal with a least number of digits, and reading an unsigned numeral:
an optional plus sign, then at least one digit, of a value below a limit.
-/

namespace FuncMeta.Numeral

/-- The lower-case hexadecimal digits of `n`, with zeros in front up to `width` digits. -/
def hex (width n : Nat) : String :=
  String.ofList (List.leftpad width '0' (Nat.toDigits 16 n))

/-- The upper-case hexadecimal digits of `n`, with zeros in front up to `width` digits. -/
def upperHex (width n : Nat) : String :=
  String.ofList (List.leftpad width '0' ((Nat.toDigits 16 n).map Char.toUpper))

/-- The value of an ASCII digit or letter, letters of either case counting from ten. -/
def digitValue (c : Char) : Option Nat :=
  if '0' ≤ c ∧ c ≤ '9' then some (c.toNat - '0'.toNat)
  else if 'a' ≤ c ∧ c ≤ 'z' then some (c.toNat - 'a'.toNat + 10)
  else if 'A' ≤ c ∧ c ≤ 'Z' then some (c.toNat - 'A'.toNat + 10)
  else none

/-- The value of a character as a digit to the given base. -/
def digit? (base : Nat) (c : Char) : Option Nat :=
  (digitValue c).filter (· < base)

/-- The number that a run of digits stands for when `high` stands before it. -/
def ofDigitsFrom? (base high : Nat) : List Char → Option Nat
  | [] => some high
  | c :: cs => (digit? base c).bind fun d ↦ ofDigitsFrom? base (high * base + d) cs

/-- The number that a non-empty run of digits stands for. -/
def ofDigits? (base : Nat) : List Char → Option Nat
  | [] => none
  | cs => ofDigitsFrom? base 0 cs

/-- The number that an unsigned numeral stands for: one plus sign may precede the digits. -/
def unsigned? (base : Nat) : List Char → Option Nat
  | '+' :: cs => ofDigits? base cs
  | cs => ofDigits? base cs

/-- The word that an unsigned numeral stands for; numbers that need more than 64 bits have none. -/
def word? (base : Nat) (cs : List Char) : Option UInt64 :=
  ((unsigned? base cs).filter (· < Word.limit)).map UInt64.ofNat

end FuncMeta.Numeral
