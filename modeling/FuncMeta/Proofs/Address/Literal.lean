import FuncMeta.Address.Literal
import FuncMeta.Proofs.Text.Numeral

/-!
# Address literals

A text is an address exactly if its core is a literal of a number that fits a word: a hexadecimal
numeral behind `0x` or `0X`, or else a decimal numeral, with underscores anywhere behind that
prefix. Main statements: `ofLiteral?_eq_some_iff`, `IsRefused.ofLiteral?_eq_none` and
`parse?_of_any_text`.
-/

namespace FuncMeta.Address

/-- The prefixes of a hexadecimal literal. -/
def IsHexPrefix (lead : List Char) : Prop := lead = ['0', 'x'] ∨ lead = ['0', 'X']

/-- What a literal starts with says to which base the body behind it is written. -/
inductive IsForm : (lead : List Char) → (base : Nat) → (body : List Char) → Prop
  /-- Everything behind a prefix is hexadecimal. -/
  | hexadecimal {lead : List Char} (hlead : IsHexPrefix lead) (body : List Char) :
    IsForm lead 16 body
  /-- A literal without a prefix is decimal. -/
  | decimal {body : List Char} (hbody : ∀ lead, IsHexPrefix lead → ¬ lead <+: body) :
    IsForm [] 10 body

/-- The characters are a literal of a number: but for its underscores, the body is a numeral. -/
def IsLiteral (literal : List Char) (n : Nat) : Prop :=
  ∃ lead base body, literal = lead ++ body ∧ IsForm lead base body ∧
    Numeral.IsNumeral base (withoutSeparators body) n

/-- The characters of literals. -/
def alphabet : List Char := 'x' :: 'X' :: '_' :: '+' :: Numeral.hexDigits

/-- What is no literal of an address. -/
inductive IsRefused : List Char → Prop
  /-- A minus sign stands somewhere. -/
  | negative {literal : List Char} (hminus : '-' ∈ literal) : IsRefused literal
  /-- A blank stands somewhere. -/
  | blank {literal : List Char} {c : Char} (hc : c ∈ literal) (hblank : Blank.isBlank c = true) :
    IsRefused literal
  /-- The body has no digits: it is empty, or there are only underscores and signs. -/
  | empty {lead body : List Char} {base : Nat} (hform : IsForm lead base body)
    (hbody : ∀ c ∈ body, c = '_' ∨ c = '+') : IsRefused (lead ++ body)
  /-- Underscores stand in front of a prefix or in it. -/
  | separated {front middle : List Char} {x : Char} (hfront : ∀ c ∈ front, c = '_')
    (hmiddle : ∀ c ∈ middle, c = '_') (hsome : front ++ middle ≠ []) (hx : x = 'x' ∨ x = 'X')
    (body : List Char) : IsRefused (front ++ '0' :: (middle ++ x :: body))
  /-- The number does not fit a word. -/
  | large {literal : List Char} {n : Nat} (hn : IsLiteral literal n) (hle : Word.limit ≤ n) :
    IsRefused literal

variable {literal lead body : List Char} {base n : Nat} {text : String} {a : Address} {c : Char}

private theorem IsForm.base_le (h : IsForm lead base body) : base ≤ 16 := by
  cases h <;> decide

private theorem IsForm.base_pos (h : IsForm lead base body) : 0 < base := by
  cases h <;> decide

/-- Every literal has a form. -/
theorem exists_isForm (literal : List Char) :
    ∃ lead base body, literal = lead ++ body ∧ IsForm lead base body := by
  by_cases hlead : ∃ lead, IsHexPrefix lead ∧ lead <+: literal
  · obtain ⟨lead, hlead, body, rfl⟩ := hlead
    exact ⟨lead, 16, body, rfl, .hexadecimal hlead body⟩
  · refine ⟨[], 10, literal, rfl, .decimal ?_⟩
    intro lead hx hstarts
    exact hlead ⟨lead, hx, hstarts⟩

private theorem ofLiteral?_of_isForm (h : IsForm lead base body) :
    ofLiteral? (lead ++ body) =
      (Numeral.word? base (withoutSeparators body)).map Address.mk := by
  cases h with
  | hexadecimal hlead => rcases hlead with rfl | rfl <;> rfl
  | decimal hbody =>
    rw [List.nil_append]
    unfold ofLiteral?
    split
    · next rest => exact absurd (List.prefix_append ['0', 'x'] rest) (hbody _ (.inl rfl))
    · next rest => exact absurd (List.prefix_append ['0', 'X'] rest) (hbody _ (.inr rfl))
    · rfl

/-- Behind a prefix, or without one, the body decides which address a literal stands for. -/
theorem ofLiteral?_eq_some_iff_of_isForm (h : IsForm lead base body) :
    ofLiteral? (lead ++ body) = some a ↔
      Numeral.IsNumeral base (withoutSeparators body) a.toNat := by
  rw [ofLiteral?_of_isForm h, Option.map_eq_some_iff, toNat,
    ← Numeral.word?_eq_some_iff h.base_le]
  constructor
  · rintro ⟨w, hw, rfl⟩
    exact hw
  · intro hw
    exact ⟨a.value, hw, rfl⟩

/-- Exactly the literals of numbers that fit a word are read. -/
theorem ofLiteral?_eq_some_iff : ofLiteral? literal = some a ↔ IsLiteral literal a.toNat := by
  constructor
  · intro ha
    obtain ⟨lead, base, body, rfl, hform⟩ := exists_isForm literal
    exact ⟨lead, base, body, rfl, hform, (ofLiteral?_eq_some_iff_of_isForm hform).mp ha⟩
  · rintro ⟨lead, base, body, rfl, hform, hn⟩
    exact (ofLiteral?_eq_some_iff_of_isForm hform).mpr hn

section

variable (hn : Numeral.IsNumeral base (withoutSeparators body) n)

include hn

/-- The characters of a body are underscores and those of a numeral. -/
theorem mem_of_isNumeral (hbase : base ≤ 16) (hc : c ∈ body) :
    c ∈ '_' :: '+' :: Numeral.hexDigits := by
  by_cases hsep : c = '_'
  · rw [hsep]
    exact List.mem_cons_self
  · have hmem : c ∈ withoutSeparators body := List.mem_filter.mpr ⟨hc, bne_iff_ne.mpr hsep⟩
    exact List.mem_cons_of_mem _ (hn.mem_of_mem hbase hmem)

/-- A decimal numeral does not start with a prefix. -/
theorem isForm_of_isNumeral (hbase : base = 10) : IsForm [] base body := by
  subst hbase
  refine .decimal fun lead hlead hstarts ↦ ?_
  have hx : 'x' ∈ body ∨ 'X' ∈ body := by
    rcases hlead with rfl | rfl
    · exact .inl (hstarts.subset (by decide))
    · exact .inr (hstarts.subset (by decide))
  rcases hx with hx | hx
  · exact absurd (mem_of_isNumeral hn (by decide) hx) (by decide)
  · exact absurd (mem_of_isNumeral hn (by decide) hx) (by decide)

private theorem mem_alphabet_of_isForm (hform : IsForm lead base body) :
    ∀ c ∈ lead ++ body, c ∈ alphabet := by
  refine List.forall_mem_append.mpr ⟨?_, fun c hc ↦ ?_⟩
  · cases hform with
    | hexadecimal hlead =>
      have hzero : '0' ∈ alphabet := by decide
      rcases hlead with rfl | rfl
      · exact List.forall_mem_cons.mpr ⟨hzero, List.forall_mem_singleton.mpr (by decide)⟩
      · exact List.forall_mem_cons.mpr ⟨hzero, List.forall_mem_singleton.mpr (by decide)⟩
    | decimal => nofun
  · exact List.mem_cons_of_mem _ (List.mem_cons_of_mem _ (mem_of_isNumeral hn hform.base_le hc))

end

private theorem IsLiteral.mem_alphabet (h : IsLiteral literal n) : ∀ c ∈ literal, c ∈ alphabet := by
  obtain ⟨lead, base, body, rfl, hform, hn⟩ := h
  exact mem_alphabet_of_isForm hn hform

/-- A literal has no blanks and no minus sign. -/
theorem isBlank_of_mem_alphabet : ∀ c ∈ alphabet, Blank.isBlank c = false ∧ c ≠ '-' := by
  have hall : alphabet.all (fun c ↦ !Blank.isBlank c && c != '-') = true := by decide
  intro c hc
  simpa using List.all_eq_true.mp hall c hc

/-- A literal that starts with an underscore or with a zero and an underscore has no prefix. -/
theorem not_isLiteral_of_separated {front middle : List Char} {x : Char}
    (hfront : ∀ c ∈ front, c = '_') (hmiddle : ∀ c ∈ middle, c = '_')
    (hsome : front ++ middle ≠ []) (hx : x = 'x' ∨ x = 'X') :
    ¬ IsLiteral (front ++ '0' :: (middle ++ x :: body)) n := by
  rintro ⟨lead, base, rest, heq, hform, hn⟩
  cases hform with
  | hexadecimal hlead =>
    obtain ⟨x', hx', rfl⟩ : ∃ x', x' ≠ '_' ∧ lead = ['0', x'] := by
      rcases hlead with rfl | rfl
      · exact ⟨'x', by decide, rfl⟩
      · exact ⟨'X', by decide, rfl⟩
    cases front with
    | cons f _ =>
      obtain rfl : f = '0' := (List.cons.inj heq).1
      exact absurd (hfront '0' List.mem_cons_self) (by decide)
    | nil =>
      cases middle with
      | cons m _ =>
        obtain rfl : m = x' := (List.cons.inj (List.cons.inj heq).2).1
        exact hx' (hmiddle m List.mem_cons_self)
      | nil => exact hsome rfl
  | decimal =>
    have hmem : x ∈ rest := by
      rw [← List.nil_append rest, ← heq]
      exact List.mem_append_right _ (List.mem_cons_of_mem _
        (List.mem_append_right _ List.mem_cons_self))
    have hdigit := mem_of_isNumeral hn (by decide) hmem
    rcases hx with rfl | rfl
    · exact absurd hdigit (by decide)
    · exact absurd hdigit (by decide)

/-- What is refused is no literal of an address. -/
theorem IsRefused.ofLiteral?_eq_none (h : IsRefused literal) : ofLiteral? literal = none := by
  rw [Option.eq_none_iff_forall_ne_some]
  intro a ha
  have hn := ofLiteral?_eq_some_iff.mp ha
  cases h with
  | negative hminus => exact (isBlank_of_mem_alphabet _ (hn.mem_alphabet _ hminus)).2 rfl
  | blank hc hblank =>
    rw [(isBlank_of_mem_alphabet _ (hn.mem_alphabet _ hc)).1] at hblank
    cases hblank
  | empty hform hbody =>
    rw [ofLiteral?_eq_some_iff_of_isForm hform] at ha
    obtain ⟨c, hc, hplus⟩ := ha.exists_ne_plus hform.base_le
    obtain ⟨hmem, hsep⟩ := List.mem_filter.mp hc
    rcases hbody c hmem with rfl | rfl
    · exact absurd hsep (by decide)
    · exact hplus rfl
  | separated hfront hmiddle hsome hx =>
    exact not_isLiteral_of_separated hfront hmiddle hsome hx hn
  | large hlarge hle =>
    obtain ⟨lead, base, body, rfl, hform, hlarge⟩ := hlarge
    rw [ofLiteral?_of_isForm hform, Numeral.word?_of_limit_le hform.base_le hlarge hle] at ha
    cases ha

/-- Zeros in front of the digits and underscores in the body do not change what a literal stands
for. -/
theorem ofLiteral?_pad {sign digits body' : List Char} (hform : IsForm lead base body)
    (ha : ofLiteral? (lead ++ body) = some a) (hsign : sign = [] ∨ sign = ['+'])
    (hdigits : '+' ∉ digits) (hbody : withoutSeparators body = sign ++ digits) {count : Nat}
    (hbody' : withoutSeparators body' = sign ++ List.replicate count '0' ++ digits) :
    ofLiteral? (lead ++ body') = some a := by
  have hbase := hform.base_le
  rw [ofLiteral?_eq_some_iff_of_isForm hform, hbody,
    Numeral.isNumeral_append_iff hbase hsign hdigits] at ha
  have hpad := ha.replicate_append hform.base_pos count
  have hn : Numeral.IsNumeral base (withoutSeparators body') a.toNat := by
    rw [hbody', List.append_assoc,
      Numeral.isNumeral_append_iff hbase hsign (hpad.plus_notMem hbase)]
    exact hpad
  -- Without a prefix it has to be excluded that the padding makes one.
  have hform' : IsForm lead base body' := by
    cases hform with
    | hexadecimal hlead => exact .hexadecimal hlead body'
    | decimal => exact isForm_of_isNumeral hn rfl
  exact (ofLiteral?_eq_some_iff_of_isForm hform').mpr hn

private theorem parse?_eq_some_iff : parse? text = some a ↔
    ∃ literal, Blank.IsCoreOf literal text.toList ∧ IsLiteral literal a.toNat := by
  simp only [parse?, ofLiteral?_eq_some_iff, ← Blank.trim_eq_iff, exists_eq_left']

private theorem parse?_of_isCoreOf (h : Blank.IsCoreOf literal text.toList) :
    parse? text = ofLiteral? literal := by
  rw [parse?, h.trim_eq]

/-- Any blanks may stand around a literal. -/
theorem parse?_ofList_of_isRun {front back : List Char} (ha : ofLiteral? literal = some a)
    (hfront : Blank.IsRun front) (hback : Blank.IsRun back) :
    parse? (.ofList (front ++ literal ++ back)) = some a := by
  have hn := ofLiteral?_eq_some_iff.mp ha
  have hliteral : ∀ c ∈ literal, Blank.isBlank c = false := fun c hc ↦
    (isBlank_of_mem_alphabet c (hn.mem_alphabet c hc)).1
  have hcore := Blank.isCoreOf_append hliteral hfront hback
  rw [← ha]
  exact parse?_of_isCoreOf (by rwa [String.toList_ofList])

/-- Which texts are addresses. A text is the address of a number exactly if the number fits a word
and the text without its outer blanks is a literal of that number. The address does not change when
zeros are put in front of the digits, underscores anywhere in the body and blanks around the
literal. Minus signs, inner blanks, a body without digits, underscores in front of the prefix or in
it, and numbers that do not fit a word are refused. -/
theorem parse?_of_any_text (text : String) :
    (∀ n, (∃ a, parse? text = some a ∧ a.toNat = n) ↔
        n < Word.limit ∧ ∃ literal, Blank.IsCoreOf literal text.toList ∧ IsLiteral literal n) ∧
      (∀ a lead base body sign digits, parse? text = some a →
        Blank.IsCoreOf (lead ++ body) text.toList → IsForm lead base body →
        (sign = [] ∨ sign = ['+']) → '+' ∉ digits → withoutSeparators body = sign ++ digits →
        ∀ body' count front back,
          withoutSeparators body' = sign ++ List.replicate count '0' ++ digits →
          Blank.IsRun front → Blank.IsRun back →
          parse? (.ofList (front ++ (lead ++ body') ++ back)) = some a) ∧
      ∀ literal, Blank.IsCoreOf literal text.toList → IsRefused literal → parse? text = none := by
  refine ⟨?_, ?_, ?_⟩
  · intro n
    constructor
    · rintro ⟨a, ha, rfl⟩
      exact ⟨a.toNat_lt, parse?_eq_some_iff.mp ha⟩
    · rintro ⟨hlt, literal, hcore, hn⟩
      have ha : (ofNat n).toNat = n := UInt64.toNat_ofNat_of_lt' hlt
      rw [← ha] at hn
      exact ⟨ofNat n, parse?_eq_some_iff.mpr ⟨literal, hcore, hn⟩, ha⟩
  · intro a lead base body sign digits ha hcore hform hsign hdigits hbody body' count front back
      hbody' hfront hback
    rw [parse?_of_isCoreOf hcore] at ha
    exact parse?_ofList_of_isRun (ofLiteral?_pad hform ha hsign hdigits hbody hbody') hfront hback
  · intro literal hcore hrefused
    rw [parse?_of_isCoreOf hcore]
    exact hrefused.ofLiteral?_eq_none

/-- The same address is written with a sign, zeros, underscores and blanks. An underscore in the
prefix makes it none. -/
theorem parse?_of_any_text_padded :
    parse? "0x+1f" = some (ofNat 31) ∧ parse? "\t0x_+_00_1f_ " = some (ofNat 31) ∧
      parse? "0_x1f" = none := by
  have hparse : parse? "0x+1f" = some (ofNat 31) := by decide +kernel
  have hcore : Blank.IsCoreOf (['0', 'x'] ++ "+1f".toList) "0x+1f".toList :=
    Blank.trim_eq_iff.mp (by decide +kernel)
  have hpadded := (parse?_of_any_text "0x+1f").2.1 (ofNat 31) ['0', 'x'] 16 "+1f".toList ['+']
    ['1', 'f'] hparse hcore (.hexadecimal (.inl rfl) _) (.inr rfl) (by decide) (by decide +kernel)
    "_+_00_1f_".toList 2 ['\t'] [' '] (by decide +kernel) (List.forall_mem_singleton.mpr rfl)
    (List.forall_mem_singleton.mpr rfl)
  have hrefused := (parse?_of_any_text "0_x1f").2.2 "0_x1f".toList
    (Blank.trim_eq_iff.mp (by decide +kernel))
    (.separated (List.forall_mem_nil _) (List.forall_mem_singleton.mpr rfl) (by decide) (.inl rfl)
      ['1', 'f'])
  exact ⟨hparse, hpadded, hrefused⟩

end FuncMeta.Address
