import FuncMeta.Json
import FuncMeta.Json.Skip
import FuncMeta.Proofs.Text.Numeral

/-!
# The grammar of JSON texts

Which characters are a value, said without a reader: words, numbers with fraction and exponent,
quoted texts with all escapes, and brackets around items with commas between them and blanks around
them. `IsValue` bounds how deeply brackets are nested. Main statements: `IsValue.starts`, on the
first character of a value, and `isBracketed_write_list` and `isBracketed_write_object`, on values
as they are written.
-/

namespace FuncMeta.Json

/-- Only blanks, such as may stand between the parts of a text. -/
def IsGap (cs : List Char) : Prop := ∀ c ∈ cs, isBlank c = true

/-- What follows a number does not go on with it. -/
def EndsNumber (rest : List Char) : Prop :=
  ∀ c ∈ rest.head?, c.isDigit = false ∧ c ≠ '.' ∧ c ≠ 'e' ∧ c ≠ 'E'

/-- At least one decimal digit. -/
structure IsDigitRun (cs : List Char) : Prop where
  ne_nil : cs ≠ []
  isDigit : ∀ c ∈ cs, c.isDigit = true

/-- The whole part of a number: one zero, or digits of which the first is not zero. -/
inductive IsWhole : List Char → Prop
  | zero : IsWhole ['0']
  | digits {c : Char} {cs : List Char} (h : IsDigitRun (c :: cs)) (hc : c ≠ '0') : IsWhole (c :: cs)

/-- The fraction of a number, or nothing. -/
inductive IsFraction : List Char → Prop
  | none : IsFraction []
  | digits {ds : List Char} (h : IsDigitRun ds) : IsFraction ('.' :: ds)

/-- The exponent of a number, or nothing. -/
inductive IsExponent : List Char → Prop
  | none : IsExponent []
  | digits {e : Char} {sign ds : List Char} (he : e = 'e' ∨ e = 'E')
    (hsign : sign = [] ∨ sign = ['+'] ∨ sign = ['-']) (h : IsDigitRun ds) :
    IsExponent (e :: (sign ++ ds))

/-- What stands for one character between quotes, or for half of a surrogate pair. -/
inductive IsQuotedUnit : List Char → Prop
  /-- A character that stands for itself. -/
  | plain {c : Char} (hc : 0x20 ≤ c.toNat) (hquote : c ≠ '"') (hslash : c ≠ '\\') :
    IsQuotedUnit [c]
  /-- An escape of one letter. -/
  | letter {e : Char} (he : e ∈ ['"', '\\', '/', 'b', 'f', 'n', 'r', 't']) : IsQuotedUnit ['\\', e]
  /-- An escape of four hexadecimal digits. -/
  | code {a b c d : Char} {n : Nat} (h : Numeral.AreDigits 16 [a, b, c, d] n) :
    IsQuotedUnit ['\\', 'u', a, b, c, d]

/-- A quoted text. -/
def IsQuoted (cs : List Char) : Prop :=
  ∃ units : List (List Char), (∀ unit ∈ units, IsQuotedUnit unit) ∧
    cs = '"' :: (units.flatten ++ ['"'])

/-- What stands for one character of a text that is wanted. Halves of surrogate pairs stand only
together. -/
inductive IsSpelling : (cs : List Char) → (c : Char) → Prop
  /-- A character that stands for itself. -/
  | plain {c : Char} (hc : 0x20 ≤ c.toNat) (hquote : c ≠ '"') (hslash : c ≠ '\\') : IsSpelling [c] c
  /-- An escape of one letter. -/
  | letter {e c : Char} (he : simpleEscape? e = some c) : IsSpelling ['\\', e] c
  /-- An escape of four hexadecimal digits. -/
  | code {a b c d : Char} {n : Nat} (h : Numeral.AreDigits 16 [a, b, c, d] n)
    (hlow : isLowSurrogate n = false) (hhigh : isHighSurrogate n = false) :
    IsSpelling ['\\', 'u', a, b, c, d] (.ofNat n)
  /-- Two such escapes, for a character beyond four digits. -/
  | pair {a b c d e f g h : Char} {high low : Nat} (hfirst : Numeral.AreDigits 16 [a, b, c, d] high)
    (hhigh : isHighSurrogate high = true) (hsecond : Numeral.AreDigits 16 [e, f, g, h] low)
    (hlow : isLowSurrogate low = true) :
    IsSpelling ['\\', 'u', a, b, c, d, '\\', 'u', e, f, g, h] (ofSurrogates high low)

/-- The characters are a text between quotes, each character spelled in one of its ways. -/
def Spells (cs : List Char) (text : String) : Prop :=
  ∃ units : List (List Char), List.Forall₂ IsSpelling units text.toList ∧
    cs = '"' :: (units.flatten ++ ['"'])

/-- A value that is no bracket. -/
inductive IsScalar : List Char → Prop
  | null : IsScalar ['n', 'u', 'l', 'l']
  | yes : IsScalar ['t', 'r', 'u', 'e']
  | no : IsScalar ['f', 'a', 'l', 's', 'e']
  | quoted {cs : List Char} (h : IsQuoted cs) : IsScalar cs
  | number {whole fraction exponent : List Char} (hwhole : IsWhole whole)
    (hfraction : IsFraction fraction) (hexponent : IsExponent exponent) :
    IsScalar (whole ++ (fraction ++ exponent))
  | negative {whole fraction exponent : List Char} (hwhole : IsWhole whole)
    (hfraction : IsFraction fraction) (hexponent : IsExponent exponent) :
    IsScalar ('-' :: (whole ++ (fraction ++ exponent)))

/-- The character that opens a bracket. -/
def Bracket.opening : Bracket → Char
  | list => '['
  | object => '{'

/-- The texts of items, with commas between them and blanks around the commas. -/
inductive AreSeparated : (items : List (List Char)) → (cs : List Char) → Prop
  /-- The last item has no comma behind it. -/
  | last (item : List Char) : AreSeparated [item] item
  /-- A comma stands between an item and the next one. -/
  | next (item : List Char) {items : List (List Char)} {before behind cs : List Char}
    (hbefore : IsGap before) (hbehind : IsGap behind) (h : AreSeparated items cs) :
    AreSeparated (item :: items) (item ++ (before ++ ',' :: (behind ++ cs)))

/-- A bracket around items. -/
inductive IsBracketed (b : Bracket) : (items : List (List Char)) → (cs : List Char) → Prop
  /-- There are only blanks in the bracket. -/
  | empty {gap : List Char} (hgap : IsGap gap) : IsBracketed b [] (b.opening :: (gap ++ [b.close]))
  /-- There are items in the bracket. -/
  | items {items : List (List Char)} {front cs back : List Char} (hfront : IsGap front)
    (hback : IsGap back) (h : AreSeparated items cs) :
    IsBracketed b items (b.opening :: (front ++ (cs ++ (back ++ [b.close]))))

/-- What stands in front of the value of an item: a name and a colon in an object, nothing in a
list. -/
inductive IsLead : Bracket → List Char → Prop
  | list : IsLead .list []
  | object {name before behind : List Char} (hname : IsQuoted name) (hbefore : IsGap before)
    (hbehind : IsGap behind) : IsLead .object (name ++ (before ++ ':' :: behind))

/-- The characters are a value with at most `depth` brackets inside each other. -/
def IsValue : (depth : Nat) → (cs : List Char) → Prop
  | 0, cs => IsScalar cs
  | depth + 1, cs => IsScalar cs ∨ ∃ b items, IsBracketed b items cs ∧
      ∀ item ∈ items, ∃ lead value, item = lead ++ value ∧ IsLead b lead ∧ IsValue depth value

/-- The first characters of values. -/
def IsStart (c : Char) : Prop := c ∈ ['n', 't', 'f', '"', '-', '[', '{'] ∨ c.isDigit = true

/-- The characters start as a value does. -/
def Starts (cs : List Char) : Prop := ∃ c rest, cs = c :: rest ∧ IsStart c

variable {gap cs rest : List Char} {c : Char} {depth : Nat} {b : Bracket}

/-- Nothing at all is a gap. -/
theorem isGap_nil : IsGap [] := List.forall_mem_nil _

/-- A gap is passed over. -/
theorem skipBlanks_append (hgap : IsGap gap) : skipBlanks (gap ++ cs) = skipBlanks cs :=
  List.dropWhile_append_of_pos hgap

private theorem skipBlanks_cons (hc : isBlank c = false) : skipBlanks (c :: cs) = c :: cs :=
  List.dropWhile_cons_of_neg (by rw [hc]; exact Bool.false_ne_true)

/-- Skipping blanks leads to the first character that is none. -/
theorem skipBlanks_gap (hgap : IsGap gap) (hc : isBlank c = false) :
    skipBlanks (gap ++ c :: cs) = c :: cs := by
  rw [skipBlanks_append hgap, skipBlanks_cons hc]

/-- Blanks do not go on with a number. -/
theorem endsNumber_gap (hgap : IsGap gap) : EndsNumber gap := by
  intro c hc
  have hblank := hgap c (List.mem_of_mem_head? hc)
  simp only [isBlank, Bool.or_eq_true, decide_eq_true_eq] at hblank
  rcases hblank with ((rfl | rfl) | rfl) | rfl <;> decide

/-- Behind a number a comma or a closing bracket follows, perhaps behind blanks. -/
theorem endsNumber_of_isGap (hgap : IsGap gap) (hc : c ∈ [',', ']', '}']) :
    EndsNumber (gap ++ c :: rest) := by
  cases gap with
  | nil =>
    intro d hd
    obtain rfl : c = d := Option.some.inj hd
    simp only [List.mem_cons, List.not_mem_nil, or_false] at hc
    rcases hc with rfl | rfl | rfl <;> decide
  | cons => exact fun d hd ↦ endsNumber_gap hgap d hd

/-- A whole part is a run of digits. -/
theorem IsWhole.isDigitRun (h : IsWhole cs) : IsDigitRun cs := by
  cases h with
  | zero => exact ⟨List.cons_ne_nil _ _, List.forall_mem_singleton.mpr rfl⟩
  | digits h => exact h

/-- A whole part starts with a digit. -/
theorem IsWhole.exists_cons (h : IsWhole cs) : ∃ c rest, cs = c :: rest ∧ c.isDigit = true := by
  obtain ⟨hne, hdigits⟩ := h.isDigitRun
  obtain ⟨c, rest, rfl⟩ := List.exists_cons_of_ne_nil hne
  exact ⟨c, rest, rfl, hdigits c List.mem_cons_self⟩

/-- A scalar starts as a value does, but with no bracket. -/
theorem IsScalar.isStart (h : IsScalar cs) :
    ∃ c rest, cs = c :: rest ∧ IsStart c ∧ Bracket.opened? c = none := by
  cases h with
  | null => exact ⟨'n', _, rfl, .inl (by decide), rfl⟩
  | yes => exact ⟨'t', _, rfl, .inl (by decide), rfl⟩
  | no => exact ⟨'f', _, rfl, .inl (by decide), rfl⟩
  | quoted h =>
    obtain ⟨_, -, rfl⟩ := h
    exact ⟨'"', _, rfl, .inl (by decide), rfl⟩
  | number hwhole =>
    obtain ⟨c, rest, rfl, hc⟩ := hwhole.exists_cons
    refine ⟨c, _, rfl, .inr hc, ?_⟩
    unfold Bracket.opened?
    split
    · cases hc
    · cases hc
    · rfl
  | negative => exact ⟨'-', _, rfl, .inl (by decide), rfl⟩

private theorem IsBracketed.starts {items : List (List Char)} (h : IsBracketed b items cs) :
    Starts cs := by
  have hopening : IsStart b.opening := by
    cases b
    · exact .inl (by decide)
    · exact .inl (by decide)
  cases h with
  | empty => exact ⟨_, _, rfl, hopening⟩
  | items => exact ⟨_, _, rfl, hopening⟩

/-- A value starts with a letter, a quote, a sign, a digit or an opening bracket. -/
theorem IsValue.starts (h : IsValue depth cs) : Starts cs := by
  have hscalar (h : IsScalar cs) : Starts cs := by
    obtain ⟨c, rest, heq, hc, -⟩ := h.isStart
    exact ⟨c, rest, heq, hc⟩
  cases depth with
  | zero => exact hscalar h
  | succ depth =>
    rcases h with h | ⟨b, items, h, -⟩
    · exact hscalar h
    · exact h.starts

/-- What starts as a value does so whatever follows. -/
theorem Starts.append (h : Starts cs) (rest : List Char) : Starts (cs ++ rest) := by
  obtain ⟨c, tail, rfl, hc⟩ := h
  exact ⟨c, tail ++ rest, rfl, hc⟩

/-- An item of a bracket starts as a value does, with its name or without one. -/
theorem IsLead.starts_append {lead value : List Char} (h : IsLead b lead) (hvalue : Starts value) :
    Starts (lead ++ value) := by
  cases h with
  | list => exact hvalue
  | object hname =>
    obtain ⟨_, -, rfl⟩ := hname
    exact ⟨'"', _, rfl, .inl (by decide)⟩

/-- Separated items start as a value does if each of them does. -/
theorem AreSeparated.starts {items : List (List Char)} (h : AreSeparated items cs)
    (hitems : ∀ item ∈ items, Starts item) : Starts cs := by
  cases h with
  | last => exact hitems cs List.mem_cons_self
  | next item => exact (hitems item List.mem_cons_self).append _

/-- No value starts with a blank, a comma or a closing bracket. -/
theorem IsStart.ne (h : IsStart c) : isBlank c = false ∧ c ≠ ',' ∧ c ≠ ']' ∧ c ≠ '}' := by
  rcases h with h | h
  · simp only [List.mem_cons, List.not_mem_nil, or_false] at h
    rcases h with rfl | rfl | rfl | rfl | rfl | rfl | rfl <;> decide
  · refine ⟨?_, ?_, ?_, ?_⟩
    · rw [← Bool.not_eq_true]
      intro hblank
      simp only [isBlank, Bool.or_eq_true, decide_eq_true_eq] at hblank
      rcases hblank with ((rfl | rfl) | rfl) | rfl <;> cases h
    · rintro rfl
      cases h
    · rintro rfl
      cases h
    · rintro rfl
      cases h

/-! ### Values as they are written -/

section

variable (layout : Layout) (depth : Nat)

/-- A number is written with its decimal digits. -/
theorem write_nat (n : Nat) : write layout depth (.nat n) = Nat.toDigits 10 n := by
  rw [nat, write]
  show (Nat.repr n).toList = _
  rw [Nat.repr_eq_ofList_toDigits, String.toList_ofList]

private theorem isGap_lineBreak : IsGap (layout.lineBreak depth) := by
  cases layout with
  | compact => exact isGap_nil
  | pretty =>
    refine List.forall_mem_cons.mpr ⟨rfl, ?_⟩
    intro c hc
    rw [(List.mem_replicate.mp hc).2]
    rfl

/-- A member of an object as it is written. -/
def writeMember (member : String × Json) : List Char :=
  quote member.1 ++ (layout.colon ++ write layout depth member.2)

private theorem areSeparated_writeItems (v : Json) (vs : List Json) :
    AreSeparated ((v :: vs).map (write layout depth))
      (write layout depth v ++ writeItems layout depth vs) := by
  induction vs generalizing v with
  | nil =>
    rw [writeItems, List.append_nil]
    exact .last _
  | cons w vs ih =>
    rw [writeItems]
    simp only [List.append_assoc]
    exact .next _ isGap_nil (isGap_lineBreak layout depth) (ih w)

private theorem areSeparated_writeMembers (m : String × Json) (ms : List (String × Json)) :
    AreSeparated ((m :: ms).map (writeMember layout depth))
      (writeMember layout depth m ++ writeMembers layout depth ms) := by
  induction ms generalizing m with
  | nil =>
    rw [writeMembers, List.append_nil]
    exact .last _
  | cons n ms ih =>
    have hrest := ih n
    rw [writeMembers]
    simp only [writeMember, List.append_assoc] at hrest ⊢
    have hnext := AreSeparated.next (writeMember layout depth m) isGap_nil
      (isGap_lineBreak layout depth) hrest
    simpa only [writeMember, List.append_assoc, List.map_cons, List.nil_append] using hnext

/-- A written list is a bracket around its written items. -/
theorem isBracketed_write_list (vs : List Json) :
    IsBracketed .list (vs.map (write layout (depth + 1))) (write layout depth (.list vs)) := by
  cases vs with
  | nil =>
    rw [write]
    exact .empty isGap_nil
  | cons v vs =>
    have hitems := IsBracketed.items (b := .list) (isGap_lineBreak layout (depth + 1))
      (isGap_lineBreak layout depth) (areSeparated_writeItems layout (depth + 1) v vs)
    rw [write]
    simp only [List.append_assoc] at hitems ⊢
    exact hitems

/-- A written object is a bracket around its written members. -/
theorem isBracketed_write_object (ms : List (String × Json)) :
    IsBracketed .object (ms.map (writeMember layout (depth + 1)))
      (write layout depth (.object ms)) := by
  cases ms with
  | nil =>
    rw [write]
    exact .empty isGap_nil
  | cons m ms =>
    have hitems := IsBracketed.items (b := .object) (isGap_lineBreak layout (depth + 1))
      (isGap_lineBreak layout depth) (areSeparated_writeMembers layout (depth + 1) m ms)
    rw [write]
    simp only [writeMember, List.append_assoc] at hitems ⊢
    exact hitems

end

end FuncMeta.Json
