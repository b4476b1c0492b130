import FuncMeta.Address
import FuncMeta.Text.CharClass

/-!
# Reading addresses

An address is written in hexadecimal after `0x` or `0X`, or else in decimal. Blanks around it and
underscores between its digits do not count, and one plus sign may precede the digits.

Trimming takes blanks off the two ends of a text and stops at the first character that is none.
What it leaves is the core of the text, and only one part of a text is its core. Main statements:
`trim_eq_iff` and `isCoreOf_append`.
-/

namespace FuncMeta

namespace Blank

/-- The text without the blanks at its end. -/
def trimEnd (cs : List Char) : List Char := (trimStart cs.reverse).reverse

/-- The text without the blanks at its two ends. -/
def trim (cs : List Char) : List Char := trimEnd (trimStart cs)

/-- All characters are blank. -/
def IsRun (cs : List Char) : Prop := ∀ c ∈ cs, isBlank c = true

/-- Only blanks stand around the core of a text, and it has none at either end. -/
structure IsCoreOf (core text : List Char) : Prop where
  eq_append : ∃ front back, IsRun front ∧ IsRun back ∧ text = front ++ core ++ back
  head : ∀ c ∈ core.head?, isBlank c = false
  last : ∀ c ∈ core.getLast?, isBlank c = false

variable {cs core text front back : List Char}

/-- Behind the blanks that are dropped stands no blank. -/
theorem head_trimStart (cs : List Char) : ∀ c ∈ (trimStart cs).head?, isBlank c = false := by
  intro c hc
  have hnot := List.head?_dropWhile_not isBlank cs
  rw [← trimStart, hc] at hnot
  exact hnot

private theorem exists_append_trimStart (cs : List Char) :
    ∃ front, IsRun front ∧ front ++ trimStart cs = cs :=
  ⟨cs.takeWhile isBlank, fun _ ↦ List.all_eq_true.mp List.all_takeWhile _,
    List.takeWhile_append_dropWhile⟩

private theorem trimStart_append (hfront : IsRun front) : trimStart (front ++ cs) = trimStart cs :=
  List.dropWhile_append_of_pos hfront

private theorem trimStart_eq_self (hcs : ∀ c ∈ cs.head?, isBlank c = false) :
    trimStart cs = cs := by
  cases cs with
  | nil => rfl
  | cons c rest =>
    have hc := hcs c rfl
    exact List.dropWhile_cons_of_neg (by rw [hc]; exact Bool.false_ne_true)

private theorem IsRun.reverse (hcs : IsRun cs) : IsRun cs.reverse :=
  fun c hc ↦ hcs c (List.mem_reverse.mp hc)

private theorem last_trimEnd (cs : List Char) : ∀ c ∈ (trimEnd cs).getLast?, isBlank c = false := by
  rw [trimEnd, List.getLast?_reverse]
  exact head_trimStart _

private theorem exists_trimEnd_append (cs : List Char) :
    ∃ back, IsRun back ∧ trimEnd cs ++ back = cs := by
  obtain ⟨front, hfront, happend⟩ := exists_append_trimStart cs.reverse
  refine ⟨front.reverse, hfront.reverse, ?_⟩
  rw [trimEnd, ← List.reverse_append, happend, List.reverse_reverse]

private theorem trimEnd_append (hback : IsRun back) : trimEnd (cs ++ back) = trimEnd cs := by
  rw [trimEnd, List.reverse_append, trimStart_append hback.reverse, trimEnd]

private theorem trimEnd_eq_self (hcs : ∀ c ∈ cs.getLast?, isBlank c = false) : trimEnd cs = cs := by
  rw [trimEnd, trimStart_eq_self (by rwa [List.head?_reverse]), List.reverse_reverse]

/-- What remains of a text at its end starts with the first character of the text. -/
theorem head_trimEnd (hcs : ∀ c ∈ cs.head?, isBlank c = false) :
    ∀ c ∈ (trimEnd cs).head?, isBlank c = false := by
  obtain ⟨back, -, happend⟩ := exists_trimEnd_append cs
  intro c hc
  apply hcs
  rw [← happend, List.head?_append, hc]
  rfl

private theorem isCoreOf_trim (text : List Char) : IsCoreOf (trim text) text where
  eq_append := by
    obtain ⟨front, hfront, hstart⟩ := exists_append_trimStart text
    obtain ⟨back, hback, hend⟩ := exists_trimEnd_append (trimStart text)
    refine ⟨front, back, hfront, hback, ?_⟩
    rw [trim, List.append_assoc, hend, hstart]
  head := head_trimEnd (head_trimStart text)
  last := last_trimEnd _

private theorem trimStart_of_isRun (hcs : IsRun cs) : trimStart cs = [] := by
  rw [← List.append_nil cs, trimStart_append hcs]
  rfl

private theorem trimEnd_trimStart_append (hcore : ∀ c ∈ core.head?, isBlank c = false)
    (hback : IsRun back) : trimEnd (trimStart (core ++ back)) = trimEnd core := by
  cases core with
  -- Around an empty core all blanks are taken off from the front.
  | nil => rw [List.nil_append, trimStart_of_isRun hback]
  | cons c rest =>
    have hself : trimStart (c :: rest ++ back) = c :: rest ++ back := trimStart_eq_self hcore
    rw [hself, trimEnd_append hback]

/-- Whatever is a core of a text is what trimming leaves of it. -/
theorem IsCoreOf.trim_eq (h : IsCoreOf core text) : trim text = core := by
  obtain ⟨front, back, hfront, hback, rfl⟩ := h.eq_append
  rw [trim, List.append_assoc, trimStart_append hfront, trimEnd_trimStart_append h.head hback,
    trimEnd_eq_self h.last]

/-- What trimming leaves of a text is its core. -/
theorem trim_eq_iff : trim text = core ↔ IsCoreOf core text := by
  constructor
  · rintro rfl
    exact isCoreOf_trim text
  · exact IsCoreOf.trim_eq

/-- Characters that are no blanks are the core of a text in which only blanks stand around them. -/
theorem isCoreOf_append (hcore : ∀ c ∈ core, isBlank c = false) (hfront : IsRun front)
    (hback : IsRun back) : IsCoreOf core (front ++ core ++ back) where
  eq_append := ⟨front, back, hfront, hback, rfl⟩
  head c hc := hcore c (List.mem_of_mem_head? hc)
  last c hc := hcore c (List.mem_of_getLast? hc)

end Blank

namespace Address

/-- The characters of a literal without its underscores. -/
def withoutSeparators (cs : List Char) : List Char := cs.filter (· != '_')

/-- The address that a trimmed literal stands for. -/
def ofLiteral? : List Char → Option Address
  | '0' :: 'x' :: body => (Numeral.word? 16 (withoutSeparators body)).map Address.mk
  | '0' :: 'X' :: body => (Numeral.word? 16 (withoutSeparators body)).map Address.mk
  | body => (Numeral.word? 10 (withoutSeparators body)).map Address.mk

/-- The address that a text stands for. -/
def parse? (text : String) : Option Address := ofLiteral? (Blank.trim text.toList)

end Address

end FuncMeta
