import FuncMeta.Proofs.Json.Grammar

/-!
# Scanning values that are no brackets

Every number and every quoted text of the grammar is scanned to its end. Main statements:
`exists_readNumeral_eq`, `skipQuoted_flatten` and `skipScalar_of_isScalar`.
-/

namespace FuncMeta.Json

variable {cs ds rest whole fraction exponent unit : List Char} {c : Char}

/-- A word that the text starts with is read off. -/
theorem expect_append (word rest : List Char) : expect word (word ++ rest) = .ok rest := by
  induction word with
  | nil => rw [List.nil_append, expect]
  | cons w ws ih => rw [List.cons_append, expect, if_pos rfl, ih]

/-! ### Numbers -/

/-- What follows digits is no digit. -/
def EndsDigits (rest : List Char) : Prop := ∀ c ∈ rest.head?, c.isDigit = false

/-- What follows a whole part is no digit and no point. -/
def EndsWhole (rest : List Char) : Prop := ∀ c ∈ rest.head?, c.isDigit = false ∧ c ≠ '.'

/-- Where a number ends no digit follows. -/
theorem EndsNumber.endsDigits (h : EndsNumber rest) : EndsDigits rest := fun c hc ↦ (h c hc).1

/-- Where a number ends neither a digit nor a point follows. -/
theorem EndsNumber.endsWhole (h : EndsNumber rest) : EndsWhole rest :=
  fun c hc ↦ ⟨(h c hc).1, (h c hc).2.1⟩

private theorem EndsWhole.endsDigits (h : EndsWhole rest) : EndsDigits rest := fun c hc ↦ (h c hc).1

private theorem digits_of_isDigitRun (h : IsDigitRun ds) (hrest : EndsDigits rest) :
    digits (ds ++ rest) = .ok (ds, rest) := by
  have hstop : rest.takeWhile Char.isDigit = [] ∧ rest.dropWhile Char.isDigit = rest := by
    cases rest with
    | nil => exact ⟨rfl, rfl⟩
    | cons c _ =>
      have hc := hrest c rfl
      simp [hc]
  have htake : (ds ++ rest).takeWhile Char.isDigit = ds := by
    rw [List.takeWhile_append_of_pos h.isDigit, hstop.1, List.append_nil]
  have hdrop : (ds ++ rest).dropWhile Char.isDigit = rest := by
    rw [List.dropWhile_append_of_pos h.isDigit, hstop.2]
  obtain ⟨d, ds, rfl⟩ := List.exists_cons_of_ne_nil h.ne_nil
  unfold digits
  rw [htake]
  exact congrArg (fun rest ↦ Except.ok (d :: ds, rest)) hdrop

/-- A whole part is read up to its last digit. -/
theorem wholePart_of_isWhole (h : IsWhole whole) (hrest : EndsDigits rest) :
    wholePart (whole ++ rest) = .ok (whole, rest) := by
  rw [wholePart, digits_of_isDigitRun h.isDigitRun hrest]
  cases h with
  | zero => rfl
  | digits h hc =>
    simp only [bind, Except.bind]
    split
    · next heq => exact absurd (List.cons.inj heq).1 hc
    · rfl

/-- There is no fraction if no point follows. -/
theorem fractionPart_of_endsWhole (hrest : EndsWhole rest) :
    fractionPart rest = .ok (none, rest) := by
  unfold fractionPart
  split
  · exact absurd rfl (hrest '.' rfl).2
  · rfl

private theorem exists_fractionPart_eq (h : IsFraction fraction) (hrest : EndsWhole rest) :
    ∃ part, fractionPart (fraction ++ rest) = .ok (part, rest) := by
  cases h with
  | none => exact ⟨none, fractionPart_of_endsWhole hrest⟩
  | digits h =>
    rw [List.cons_append, fractionPart, digits_of_isDigitRun h hrest.endsDigits]
    exact ⟨_, rfl⟩

/-- There is no exponent if none follows. -/
theorem exponentPart_of_endsNumber (hrest : EndsNumber rest) :
    exponentPart rest = .ok (none, rest) := by
  cases rest with
  | nil => rfl
  | cons c rest =>
    obtain ⟨-, -, he, hE⟩ := hrest c rfl
    rw [exponentPart, if_neg (not_or.mpr ⟨he, hE⟩)]

/-- The digits of an exponent are found behind its sign. -/
theorem sign_append {mark : List Char} (hmark : mark = [] ∨ mark = ['+'] ∨ mark = ['-'])
    (h : IsDigitRun ds) : (sign (mark ++ (ds ++ rest))).2 = ds ++ rest := by
  rcases hmark with rfl | rfl | rfl
  · obtain ⟨d, ds, rfl⟩ := List.exists_cons_of_ne_nil h.ne_nil
    have hd := h.isDigit d List.mem_cons_self
    rw [List.nil_append, List.cons_append]
    unfold sign
    split
    · next heq =>
      rw [(List.cons.inj heq).1] at hd
      cases hd
    · next heq =>
      rw [(List.cons.inj heq).1] at hd
      cases hd
    · rfl
  · rfl
  · rfl

private theorem exists_exponentPart_eq (h : IsExponent exponent) (hrest : EndsNumber rest) :
    ∃ part, exponentPart (exponent ++ rest) = .ok (part, rest) := by
  cases h with
  | none => exact ⟨none, exponentPart_of_endsNumber hrest⟩
  | digits he hmark h =>
    rw [List.cons_append, List.append_assoc, exponentPart, if_pos he, sign_append hmark h,
      digits_of_isDigitRun h hrest.endsDigits]
    exact ⟨_, rfl⟩

private theorem IsExponent.endsWhole (h : IsExponent exponent) (hrest : EndsNumber rest) :
    EndsWhole (exponent ++ rest) := by
  cases h with
  | none => exact hrest.endsWhole
  | digits he =>
    intro c hc
    obtain rfl := Option.some.inj hc
    rcases he with rfl | rfl <;> decide

private theorem IsFraction.endsDigits (h : IsFraction fraction) (hrest : EndsWhole rest) :
    EndsDigits (fraction ++ rest) := by
  cases h with
  | none => exact hrest.endsDigits
  | digits =>
    intro c hc
    obtain rfl := Option.some.inj hc
    rfl

/-- A number is scanned to its end. -/
theorem exists_readNumeral_eq (negative : Bool) (hwhole : IsWhole whole)
    (hfraction : IsFraction fraction) (hexponent : IsExponent exponent)
    (hrest : EndsNumber rest) :
    ∃ n, readNumeral negative (whole ++ (fraction ++ (exponent ++ rest))) = .ok (n, rest) := by
  have hends := hexponent.endsWhole hrest
  obtain ⟨f, hf⟩ := exists_fractionPart_eq hfraction hends
  obtain ⟨e, he⟩ := exists_exponentPart_eq hexponent hrest
  refine ⟨{ negative, whole, fraction := f, exponent := e }, ?_⟩
  rw [readNumeral, wholePart_of_isWhole hwhole (hfraction.endsDigits hends)]
  show (fractionPart _ >>= _) = _
  rw [hf]
  show (exponentPart _ >>= _) = _
  rw [he]
  rfl

/-! ### Quoted texts -/

/-- Four hexadecimal digits are read as their number. -/
theorem codeUnit?_of_areDigits {a b c d : Char} {n : Nat}
    (h : Numeral.AreDigits 16 [a, b, c, d] n) : codeUnit? a b c d = some n :=
  (Numeral.ofDigits?_eq_some_iff (Nat.le_refl 16)).mpr h

/-- What stands for one character is skipped as a whole. -/
theorem skipQuoted_append (h : IsQuotedUnit unit) (rest : List Char) :
    skipQuoted (unit ++ rest) = skipQuoted rest := by
  cases h with
  | plain hc hquote hslash =>
    rw [List.singleton_append, skipQuoted]
    · exact if_neg (Nat.not_lt.mpr hc)
    all_goals
      intros
      contradiction
  | letter he =>
    simp only [List.mem_cons, List.not_mem_nil, or_false] at he
    rcases he with rfl | rfl | rfl | rfl | rfl | rfl | rfl | rfl <;> rfl
  | code h =>
    simp only [List.cons_append, List.nil_append]
    rw [skipQuoted, codeUnit?_of_areDigits h]

/-- A quoted text is skipped to its closing quote. -/
theorem skipQuoted_flatten {units : List (List Char)} (h : ∀ unit ∈ units, IsQuotedUnit unit)
    (rest : List Char) : skipQuoted (units.flatten ++ '"' :: rest) = .ok rest := by
  induction units with
  | nil => rw [List.flatten_nil, List.nil_append, skipQuoted]
  | cons unit units ih =>
    obtain ⟨hunit, hunits⟩ := List.forall_mem_cons.mp h
    rw [List.flatten_cons, List.append_assoc, skipQuoted_append hunit, ih hunits]

/-- A quoted text starts with a quote, behind which it is skipped. -/
theorem IsQuoted.exists_cons (h : IsQuoted cs) :
    ∃ tail, cs = '"' :: tail ∧ ∀ rest, skipQuoted (tail ++ rest) = .ok rest := by
  obtain ⟨units, hunits, rfl⟩ := h
  refine ⟨_, rfl, fun rest ↦ ?_⟩
  rw [List.append_assoc, List.singleton_append, skipQuoted_flatten hunits]

/-! ### Scalars -/

private theorem skipScalar_of_isDigit (hc : c.isDigit = true) (cs : List Char) :
    skipScalar c cs = match readNumeral false (c :: cs) with
      | .ok (_, rest) => .ok rest
      | .error _ => .error .malformed := by
  have hne {d : Char} (hd : d.isDigit = false) : c ≠ d := by
    rintro rfl
    rw [hc] at hd
    cases hd
  rw [skipScalar, if_neg (hne rfl), if_neg (hne rfl), if_neg (hne rfl), if_neg (hne rfl),
    if_neg (hne rfl)]
  exact if_pos hc

/-- A value that is no bracket is skipped to its end. -/
theorem skipScalar_of_isScalar {text : List Char} (h : IsScalar text) (heq : text = c :: cs)
    (hrest : EndsNumber rest) : skipScalar c (cs ++ rest) = .ok rest := by
  cases h with
  | null =>
    obtain ⟨rfl, rfl⟩ := List.cons.inj heq
    exact expect_append ['u', 'l', 'l'] rest
  | yes =>
    obtain ⟨rfl, rfl⟩ := List.cons.inj heq
    exact expect_append ['r', 'u', 'e'] rest
  | no =>
    obtain ⟨rfl, rfl⟩ := List.cons.inj heq
    exact expect_append ['a', 'l', 's', 'e'] rest
  | quoted h =>
    obtain ⟨tail, rfl, htail⟩ := h.exists_cons
    obtain ⟨rfl, rfl⟩ := List.cons.inj heq
    exact htail rest
  | negative hwhole hfraction hexponent =>
    obtain ⟨rfl, rfl⟩ := List.cons.inj heq
    obtain ⟨n, hn⟩ := exists_readNumeral_eq true hwhole hfraction hexponent hrest
    rw [List.append_assoc, List.append_assoc]
    show (match readNumeral true _ with | .ok (_, rest) => _ | .error _ => _) = _
    rw [hn]
  | number hwhole hfraction hexponent =>
    obtain ⟨n, hn⟩ := exists_readNumeral_eq false hwhole hfraction hexponent hrest
    obtain ⟨d, tail, rfl, hd⟩ := hwhole.exists_cons
    rw [List.cons_append] at heq hn
    obtain ⟨rfl, rfl⟩ := List.cons.inj heq
    rw [skipScalar_of_isDigit hd, List.append_assoc, List.append_assoc, hn]

end FuncMeta.Json
