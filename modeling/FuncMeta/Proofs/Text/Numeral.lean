import FuncMeta.Text.Numeral
import Mathlib.Data.List.Forall2
import Mathlib.Data.Nat.Digits.Defs

/-!
# Unsigned numerals

A numeral to a base up to sixteen is at most one plus sign and then at least one digit, letters of
either case standing for the digits from ten. It is read from its first digit on, and stands for the
sum of its digits' values, each times the power of the base that belongs to its place. The digits
that a number is written with stand for it. Main statements: `digit?_eq_some_iff`,
`unsigned?_eq_some_iff`, `word?_eq_some_iff` and `areDigits_hex`.
-/

namespace FuncMeta.Numeral

/-- A character is the digit of a value to a base. -/
def IsDigit (base : Nat) (c : Char) (d : Nat) : Prop :=
  d < base ∧ (c = Nat.digitChar d ∨ c = (Nat.digitChar d).toUpper)

/-- The digits to base sixteen in both cases. -/
def hexDigits : List Char :=
  (List.range 16).flatMap fun d ↦ [Nat.digitChar d, (Nat.digitChar d).toUpper]

/-- The characters are at least one digit to a base, and stand for a number. -/
structure AreDigits (base : Nat) (cs : List Char) (n : Nat) : Prop where
  ne_nil : cs ≠ []
  value : ∃ values, List.Forall₂ (IsDigit base) cs values ∧ n = Nat.ofDigits base values.reverse

/-- The characters are an unsigned numeral to a base, which stands for a number. -/
def IsNumeral (base : Nat) (cs : List Char) (n : Nat) : Prop :=
  ∃ sign digits, (sign = [] ∨ sign = ['+']) ∧ cs = sign ++ digits ∧ AreDigits base digits n

variable {base high n d : Nat} {c : Char} {cs sign digits : List Char}

/-- The digits to a base up to sixteen are among the hexadecimal ones. -/
theorem IsDigit.mem_hexDigits (hbase : base ≤ 16) (hc : IsDigit base c d) : c ∈ hexDigits := by
  have hd : d ∈ List.range 16 := List.mem_range.mpr (Nat.lt_of_lt_of_le hc.1 hbase)
  have hcase : c ∈ [Nat.digitChar d, (Nat.digitChar d).toUpper] := by
    simpa only [List.mem_cons, List.not_mem_nil, or_false] using hc.2
  exact List.mem_flatMap.mpr ⟨d, hd, hcase⟩

/-- Each character of a run of digits is a digit. -/
theorem AreDigits.exists_isDigit (h : AreDigits base cs n) (hc : c ∈ cs) :
    ∃ d, IsDigit base c d := by
  obtain ⟨-, values, hvalues, -⟩ := h
  induction hvalues with
  | nil => cases hc
  | cons hd _ ih =>
    rcases List.mem_cons.mp hc with rfl | hc
    · exact ⟨_, hd⟩
    · exact ih hc

/-- Only ASCII characters have a value. -/
theorem toNat_lt_of_digitValue (hc : digitValue c = some d) : c.toNat < 128 := by
  have hle {c' : Char} (h : c ≤ c') : c.toNat ≤ c'.toNat := UInt32.le_iff_toNat_le.mp h
  unfold digitValue at hc
  split at hc
  · next h => exact Nat.lt_of_le_of_lt (hle h.2) (by decide)
  split at hc
  · next h => exact Nat.lt_of_le_of_lt (hle h.2) (by decide)
  split at hc
  · next h => exact Nat.lt_of_le_of_lt (hle h.2) (by decide)
  · cases hc

/-- The digits up to `f` and no other characters have a value below sixteen. -/
theorem digitValue_eq_some_iff (hd : d < 16) : digitValue c = some d ↔
    c = Nat.digitChar d ∨ c = (Nat.digitChar d).toUpper := by
  have hchar : ∀ d < 16, digitValue (Nat.digitChar d) = some d ∧
      digitValue (Nat.digitChar d).toUpper = some d := by decide
  -- The characters that have a value are few enough to be tried one by one.
  have hascii : ∀ code < 128, ∀ d < 16, digitValue (.ofNat code) = some d →
      Char.ofNat code = Nat.digitChar d ∨ Char.ofNat code = (Nat.digitChar d).toUpper := by
    decide +kernel
  constructor
  · intro hc
    have hcode := hascii c.toNat (toNat_lt_of_digitValue hc) d hd
    rw [Char.ofNat_toNat] at hcode
    exact hcode hc
  · rintro (rfl | rfl)
    · exact (hchar d hd).1
    · exact (hchar d hd).2

section

variable (hbase : base ≤ 16)

include hbase

/-- A character is read as a digit exactly if it is one. -/
theorem digit?_eq_some_iff : digit? base c = some d ↔ IsDigit base c d := by
  rw [digit?, Option.filter_eq_some_iff, decide_eq_true_eq, IsDigit, and_comm]
  exact and_congr_right fun hd ↦ digitValue_eq_some_iff (Nat.lt_of_lt_of_le hd hbase)

/-- Reading a run of digits shifts what stands before it by as many places as it has digits. -/
theorem ofDigitsFrom?_eq_some_iff : ofDigitsFrom? base high cs = some n ↔
    ∃ values, List.Forall₂ (IsDigit base) cs values ∧
      n = Nat.ofDigits base values.reverse + base ^ values.length * high := by
  induction cs generalizing high with
  | nil =>
    simp only [ofDigitsFrom?, List.forall₂_nil_left_iff, exists_eq_left, List.reverse_nil,
      Nat.ofDigits_nil, List.length_nil, Nat.pow_zero, Nat.one_mul, Nat.zero_add,
      Option.some.injEq, eq_comm]
  | cons c rest ih =>
    simp only [ofDigitsFrom?, Option.bind_eq_some_iff, digit?_eq_some_iff hbase, ih,
      List.forall₂_cons_left_iff]
    constructor
    · rintro ⟨d, hc, values, hrest, rfl⟩
      refine ⟨d :: values, ⟨d, values, hc, hrest, rfl⟩, ?_⟩
      rw [Nat.ofDigits_reverse_cons, List.length_cons]
      ring
    · rintro ⟨_, ⟨d, values, hc, hrest, rfl⟩, rfl⟩
      refine ⟨d, hc, values, hrest, ?_⟩
      rw [Nat.ofDigits_reverse_cons, List.length_cons]
      ring

/-- A run of digits is read as the number that it stands for, and nothing else is. -/
theorem ofDigits?_eq_some_iff : ofDigits? base cs = some n ↔ AreDigits base cs n := by
  cases cs with
  | nil =>
    constructor
    · nofun
    · intro h
      exact absurd rfl h.ne_nil
  | cons c rest =>
    rw [ofDigits?, ofDigitsFrom?_eq_some_iff hbase]
    · simp only [Nat.mul_zero, Nat.add_zero]
      exact ⟨fun h ↦ ⟨List.cons_ne_nil c rest, h⟩, AreDigits.value⟩
    · nofun

/-- No sign is among digits. -/
theorem AreDigits.plus_notMem (h : AreDigits base cs n) : '+' ∉ cs := by
  intro hplus
  obtain ⟨d, hd⟩ := h.exists_isDigit hplus
  exact absurd (hd.mem_hexDigits hbase) (by decide)

/-- Whether a numeral has a sign is to be seen from its first character. -/
theorem isNumeral_append_iff (hsign : sign = [] ∨ sign = ['+']) (hdigits : '+' ∉ digits) :
    IsNumeral base (sign ++ digits) n ↔ AreDigits base digits n := by
  constructor
  · rintro ⟨sign', digits', hsign', heq, hn⟩
    have hplus := hn.plus_notMem hbase
    rcases hsign with rfl | rfl <;> rcases hsign' with rfl | rfl
    · obtain rfl : digits = digits' := heq
      exact hn
    · obtain rfl : digits = '+' :: digits' := heq
      exact absurd List.mem_cons_self hdigits
    · obtain rfl : '+' :: digits = digits' := heq
      exact absurd List.mem_cons_self hplus
    · obtain rfl : digits = digits' := List.tail_eq_of_cons_eq heq
      exact hn
  · intro hn
    exact ⟨sign, digits, hsign, rfl, hn⟩

/-- A numeral is read as the number that it stands for, and nothing else is. -/
theorem unsigned?_eq_some_iff : unsigned? base cs = some n ↔ IsNumeral base cs n := by
  unfold unsigned?
  split
  · next rest =>
    rw [ofDigits?_eq_some_iff hbase]
    constructor
    · intro hn
      exact ⟨['+'], rest, .inr rfl, rfl, hn⟩
    · rintro ⟨sign, digits, rfl | rfl, heq, hn⟩
      · obtain rfl : '+' :: rest = digits := heq
        exact absurd List.mem_cons_self (hn.plus_notMem hbase)
      · obtain rfl : rest = digits := List.tail_eq_of_cons_eq heq
        exact hn
  · next hplus =>
    rw [ofDigits?_eq_some_iff hbase]
    constructor
    · intro hn
      exact ⟨[], cs, .inl rfl, rfl, hn⟩
    · rintro ⟨sign, digits, rfl | rfl, rfl, hn⟩
      · exact hn
      · exact absurd rfl (hplus digits)

/-- A numeral is read as a word exactly if its number fits one. -/
theorem word?_eq_some_iff {w : UInt64} : word? base cs = some w ↔ IsNumeral base cs w.toNat := by
  rw [← unsigned?_eq_some_iff hbase, word?]
  simp only [Option.map_eq_some_iff, Option.filter_eq_some_iff, decide_eq_true_eq]
  constructor
  · rintro ⟨n, ⟨hn, hlt⟩, rfl⟩
    rw [hn, UInt64.toNat_ofNat_of_lt' hlt]
  · intro hw
    exact ⟨w.toNat, ⟨hw, w.toNat_lt⟩, UInt64.ofNat_toNat⟩

/-- A numeral of a number that does not fit a word is not read. -/
theorem word?_of_limit_le (h : IsNumeral base cs n) (hle : Word.limit ≤ n) :
    word? base cs = none := by
  rw [word?, (unsigned?_eq_some_iff hbase).mpr h, Option.filter_some,
    if_neg (by rwa [decide_eq_true_eq, Nat.not_lt]), Option.map_none]

/-- Every character of a numeral is its sign or a digit. -/
theorem IsNumeral.mem_of_mem (h : IsNumeral base cs n) (hc : c ∈ cs) : c ∈ '+' :: hexDigits := by
  obtain ⟨sign, digits, hsign, rfl, hn⟩ := h
  rcases List.mem_append.mp hc with hc | hc
  · rcases hsign with rfl | rfl
    · cases hc
    · rw [List.mem_singleton.mp hc]
      exact List.mem_cons_self
  · obtain ⟨d, hd⟩ := hn.exists_isDigit hc
    exact List.mem_cons_of_mem _ (hd.mem_hexDigits hbase)

/-- Without a digit there is no numeral. -/
theorem IsNumeral.exists_ne_plus (h : IsNumeral base cs n) : ∃ c ∈ cs, c ≠ '+' := by
  obtain ⟨sign, digits, -, rfl, hn⟩ := h
  obtain ⟨c, hc⟩ := List.exists_mem_of_ne_nil _ hn.ne_nil
  refine ⟨c, List.mem_append_right _ hc, ?_⟩
  rintro rfl
  exact hn.plus_notMem hbase hc

end

/-- Zeros in front of its digits do not change what a numeral stands for. -/
theorem AreDigits.replicate_append (hbase : 0 < base) (h : AreDigits base cs n) (count : Nat) :
    AreDigits base (List.replicate count '0' ++ cs) n := by
  induction count with
  | zero => exact h
  | succ count ih =>
    obtain ⟨-, values, hvalues, rfl⟩ := ih
    refine ⟨List.cons_ne_nil _ _, 0 :: values, ?_, (Nat.ofDigits_reverse_zero_cons values).symm⟩
    exact .cons ⟨hbase, .inl rfl⟩ hvalues

/-- A digit at the end moves the digits in front of it up by one place. -/
theorem AreDigits.concat (h : AreDigits base cs n) (hc : IsDigit base c d) :
    AreDigits base (cs ++ [c]) (base * n + d) := by
  obtain ⟨-, values, hvalues, rfl⟩ := h
  refine ⟨List.append_ne_nil_of_right_ne_nil _ (List.cons_ne_nil c []), values ++ [d], ?_, ?_⟩
  · exact List.rel_append hvalues (.cons hc .nil)
  · rw [List.reverse_append, List.reverse_singleton, List.singleton_append, Nat.ofDigits_cons,
      Nat.add_comm]

/-- The digits that a number is written with stand for it. -/
theorem areDigits_toDigits (hbase : 1 < base) (n : Nat) :
    AreDigits base (Nat.toDigits base n) n := by
  induction n using Nat.strong_induction_on with
  | _ n ih =>
    by_cases hlt : n < base
    · rw [Nat.toDigits_of_lt_base hlt]
      refine ⟨List.cons_ne_nil _ _, [n], .cons ⟨hlt, .inl rfl⟩ .nil, ?_⟩
      exact Nat.ofDigits_singleton.symm
    · have hle := Nat.le_of_not_lt hlt
      rw [Nat.toDigits_of_base_le hbase hle]
      have hhigh := ih (n / base) (Nat.div_lt_self (by omega) hbase)
      have hall := hhigh.concat ⟨Nat.mod_lt n (by omega), .inl rfl⟩
      rwa [Nat.div_add_mod] at hall

/-- A hexadecimal digit may be written as a capital. -/
theorem IsDigit.toUpper (h : IsDigit 16 c d) : IsDigit 16 c.toUpper d := by
  have htwice : ∀ d < 16, (Nat.digitChar d).toUpper.toUpper = (Nat.digitChar d).toUpper := by decide
  refine ⟨h.1, .inr ?_⟩
  rcases h.2 with rfl | rfl
  · rfl
  · exact htwice d h.1

private theorem AreDigits.map_toUpper (h : AreDigits 16 cs n) :
    AreDigits 16 (cs.map Char.toUpper) n := by
  obtain ⟨hne, values, hvalues, rfl⟩ := h
  refine ⟨?_, values, ?_, rfl⟩
  · simpa using hne
  · rw [List.forall₂_map_left_iff]
    exact hvalues.imp fun _ _ ↦ IsDigit.toUpper

/-- The digits that `hex` writes, those in front up to the width included. -/
theorem areDigits_hex (width n : Nat) : AreDigits 16 (hex width n).toList n := by
  rw [hex, String.toList_ofList]
  exact (areDigits_toDigits (by decide) n).replicate_append (by decide) _

/-- The digits that `upperHex` writes, those in front up to the width included. -/
theorem areDigits_upperHex (width n : Nat) : AreDigits 16 (upperHex width n).toList n := by
  rw [upperHex, String.toList_ofList]
  exact (areDigits_toDigits (by decide) n).map_toUpper.replicate_append (by decide) _

end FuncMeta.Numeral
