import FuncMeta.Json.Read
import FuncMeta.Proofs.Json.Skip

/-!
# Reading back what is written

A reader reads a text as a value if it gives that value and leaves just what follows the text,
whatever blanks stand in front. Words, truth values, texts, null and lists are read back as they are
written, and texts in any other spelling. Main statements: `reads_write_nat`,
`reads_write_bool`, `reads_write_texts` and `Reads.list`.
-/

namespace FuncMeta.Json

variable {α : Type} {read : Reader α} {a : α} {as : List α}
  {gap back before behind cs ds rest text : List Char} {items : List (List Char)} {c : Char}

/-- A reader takes a text as a value and leaves what follows, which must not go on with a number. -/
def Reads (read : Reader α) (cs : List Char) (a : α) : Prop :=
  ∀ gap rest, IsGap gap → EndsNumber rest → read (gap ++ (cs ++ rest)) = .ok (a, rest)

/-- What is read may be put to use at once. -/
theorem Reads.map {β : Type} (h : Reads read cs a) (f : α → β) :
    Reads (fun cs ↦ (read cs).map fun (a, rest) ↦ (f a, rest)) cs (f a) := by
  intro gap rest hgap hrest
  show (read (gap ++ (cs ++ rest))).map _ = _
  rw [h gap rest hgap hrest]
  rfl

/-! ### Texts -/

/-- The digits of a control character's escape. -/
theorem toList_hex_control : ∀ n < 0x20, (Numeral.hex 4 n).toList =
    ['0', '0', Nat.digitChar (n / 16), Nat.digitChar (n % 16)] := by
  decide +kernel

/-- The way a character is written between quotes is one of its spellings. -/
theorem isSpelling_escape (c : Char) : IsSpelling (escape c) c := by
  unfold escape
  split
  · next h => subst h; exact .letter rfl
  split
  · next h => subst h; exact .letter rfl
  split
  · next h => subst h; exact .letter rfl
  split
  · next h => subst h; exact .letter rfl
  split
  · next h => subst h; exact .letter rfl
  split
  · next h => subst h; exact .letter rfl
  split
  · next h => subst h; exact .letter rfl
  split
  · next hcontrol =>
    have hdigits := Numeral.areDigits_hex 4 c.toNat
    have hlow : isLowSurrogate c.toNat = false := by
      simp only [isLowSurrogate, Bool.and_eq_false_iff, decide_eq_false_iff_not]
      omega
    have hhigh : isHighSurrogate c.toNat = false := by
      simp only [isHighSurrogate, Bool.and_eq_false_iff, decide_eq_false_iff_not]
      omega
    rw [toList_hex_control _ hcontrol] at hdigits ⊢
    have hcode := IsSpelling.code hdigits hlow hhigh
    rwa [Char.ofNat_toNat] at hcode
  · next hquote hslash _ _ _ _ _ hcontrol => exact .plain (Nat.not_lt.mp hcontrol) hquote hslash

/-- A text between quotes spells that text. -/
theorem spells_quote (s : String) : Spells (quote s) s := by
  refine ⟨s.toList.map escape, ?_, ?_⟩
  · rw [List.forall₂_map_left_iff]
    exact List.forall₂_same.mpr fun c _ ↦ isSpelling_escape c
  · rw [quote, List.flatMap_def, List.cons_append]

/-- A character is read back from each of its spellings. -/
theorem readQuoted_append (h : IsSpelling cs c) (rest : List Char) :
    readQuoted (cs ++ rest) = prepend c (readQuoted rest) := by
  cases h with
  | plain hc hquote hslash =>
    rw [List.singleton_append, readQuoted]
    · exact if_neg (Nat.not_lt.mpr hc)
    all_goals
      intros
      contradiction
  | @letter e c he =>
    have hu : e ≠ 'u' := by
      rintro rfl
      cases he
    simp only [List.cons_append, List.nil_append]
    rw [readQuoted, he]
    all_goals
      intros
      contradiction
  | code h hlow hhigh =>
    simp only [List.cons_append, List.nil_append]
    rw [readQuoted, codeUnit?_of_areDigits h]
    simp only [hlow, hhigh, Bool.false_eq_true, if_false]
  | @pair _ _ _ _ _ _ _ _ high low hfirst hhigh hsecond hlow =>
    have hnot : isLowSurrogate high = false := by
      simp only [isHighSurrogate, isLowSurrogate, Bool.and_eq_true, Bool.and_eq_false_iff,
        decide_eq_true_eq, decide_eq_false_iff_not] at hhigh ⊢
      omega
    simp only [List.cons_append, List.nil_append]
    rw [readQuoted, codeUnit?_of_areDigits hfirst]
    simp only [hnot, hhigh, codeUnit?_of_areDigits hsecond, hlow, Bool.false_eq_true, if_false,
      if_true]

private theorem readQuoted_flatten {units : List (List Char)} (h : List.Forall₂ IsSpelling units cs)
    (rest : List Char) : readQuoted (units.flatten ++ '"' :: rest) = .ok (cs, rest) := by
  induction h with
  | nil => rw [List.flatten_nil, List.nil_append, readQuoted]
  | cons hunit _ ih =>
    rw [List.flatten_cons, List.append_assoc, readQuoted_append hunit, ih]
    rfl

/-- A spelled text starts with a quote, behind which the text and what follows are read. -/
theorem Spells.exists_readQuoted {s : String} (h : Spells cs s) (rest : List Char) :
    ∃ tail, cs ++ rest = '"' :: tail ∧ readQuoted tail = .ok (s.toList, rest) := by
  obtain ⟨units, hunits, rfl⟩ := h
  refine ⟨units.flatten ++ '"' :: rest, ?_, readQuoted_flatten hunits rest⟩
  rw [List.cons_append, List.append_assoc, List.singleton_append]

private theorem reads_quote (s : String) : Reads readText (quote s) s := by
  intro gap rest hgap _
  obtain ⟨tail, heq, hread⟩ := (spells_quote s).exists_readQuoted rest
  rw [heq, readText, skipBlanks_gap hgap rfl]
  show (readQuoted _).map _ = _
  rw [hread]
  show Except.ok (String.ofList s.toList, rest) = _
  rw [String.ofList_toList]

/-! ### Truth values and null -/

/-- A truth value is read back from its text. -/
theorem reads_write_bool (layout : Layout) (depth : Nat) (value : Bool) :
    Reads readBool (write layout depth (.bool value)) value := by
  intro gap rest hgap _
  cases value with
  | true =>
    rw [write, List.cons_append, readBool, skipBlanks_gap hgap rfl]
    show (expect _ (['r', 'u', 'e'] ++ rest)).map _ = _
    rw [expect_append]
    rfl
  | false =>
    rw [write, List.cons_append, readBool, skipBlanks_gap hgap rfl]
    show (expect _ (['a', 'l', 's', 'e'] ++ rest)).map _ = _
    rw [expect_append]
    rfl

private theorem reads_write_null (layout : Layout) (depth : Nat) (read : Reader α) :
    Reads (readNullable read) (write layout depth .null) none := by
  intro gap rest hgap _
  rw [write, List.cons_append, readNullable, skipBlanks_gap hgap rfl]
  show (expect _ (['u', 'l', 'l'] ++ rest)).map _ = _
  rw [expect_append]
  rfl

/-- A value that is not null is read as it is without the choice. -/
theorem Reads.nullable (h : Reads read (c :: cs) a) (hblank : isBlank c = false) (hc : c ≠ 'n') :
    Reads (readNullable read) (c :: cs) (some a) := by
  intro gap rest hgap hrest
  have hread : read (c :: (cs ++ rest)) = .ok (a, rest) := h [] rest isGap_nil hrest
  rw [List.cons_append]
  unfold readNullable
  rw [skipBlanks_gap hgap hblank]
  split
  · next heq => exact absurd (List.cons.inj heq).1 hc
  · rw [hread]
    rfl

/-! ### Words -/

/-- Only zero is written with a zero in front. -/
theorem isWhole_toDigits (n : Nat) : IsWhole (Nat.toDigits 10 n) := by
  have hdigits : IsDigitRun (Nat.toDigits 10 n) :=
    ⟨Nat.toDigits_ne_nil, fun _ ↦ Nat.isDigit_of_mem_toDigits (by decide) (by decide)⟩
  have hdigit : ∀ d < 10, 0 < d → Nat.digitChar d ≠ '0' := by decide
  have hhead (n : Nat) (hn : 0 < n) : ∃ c cs, Nat.toDigits 10 n = c :: cs ∧ c ≠ '0' := by
    induction n using Nat.strong_induction_on with
    | _ n ih =>
      by_cases hlt : n < 10
      · exact ⟨_, [], Nat.toDigits_of_lt_base hlt, hdigit n hlt hn⟩
      · obtain ⟨c, cs, hhigh, hc⟩ := ih (n / 10) (by omega) (by omega)
        rw [Nat.toDigits_of_base_le (by decide) (Nat.le_of_not_lt hlt), hhigh]
        exact ⟨c, _, rfl, hc⟩
  rcases Nat.eq_zero_or_pos n with rfl | hn
  · exact .zero
  · obtain ⟨c, cs, heq, hc⟩ := hhead n hn
    rw [heq] at hdigits ⊢
    exact .digits hdigits hc

private theorem le_ofDigitChars (ds : List Char) (high : Nat) :
    high ≤ Nat.ofDigitChars 10 ds high := by
  induction ds generalizing high with
  | nil => exact Nat.le_refl _
  | cons c ds ih =>
    rw [Nat.ofDigitChars_cons]
    exact Nat.le_trans (by omega) (ih _)

/-- Digits of a word leave no digit over. -/
theorem extend_of_lt {high : Nat} (h : Nat.ofDigitChars 10 ds high < Word.limit) :
    extend high ds = (Nat.ofDigitChars 10 ds high, 0) := by
  induction ds generalizing high with
  | nil => rfl
  | cons c ds ih =>
    rw [Nat.ofDigitChars_cons, Nat.mul_comm] at h ⊢
    rw [extend, if_pos (Nat.lt_of_le_of_lt (le_ofDigitChars ds _) h), ih h]

private theorem readNumeral_of_isWhole (negative : Bool) (h : IsWhole ds)
    (hrest : EndsNumber rest) :
    readNumeral negative (ds ++ rest) =
      .ok ({ negative, whole := ds, fraction := none, exponent := none }, rest) := by
  rw [readNumeral, wholePart_of_isWhole h hrest.endsDigits]
  show (fractionPart rest >>= _) = _
  rw [fractionPart_of_endsWhole hrest.endsWhole]
  show (exponentPart rest >>= _) = _
  rw [exponentPart_of_endsNumber hrest]
  rfl

private theorem word_toDigits (w : UInt64) :
    Numeral.word { negative := false, whole := Nat.toDigits 10 w.toNat, fraction := none,
                   exponent := none } = .ok w := by
  have hlt : Nat.ofDigitChars 10 (Nat.toDigits 10 w.toNat) 0 < Word.limit := by
    rw [Nat.ofDigitChars_ten_toDigits]
    exact w.toNat_lt
  have hall := extend_of_lt hlt
  rw [Nat.ofDigitChars_ten_toDigits] at hall
  simp only [Numeral.word, hall, Option.isNone_none, Bool.and_true, beq_self_eq_true, if_true,
    Bool.false_eq_true, if_false, UInt64.ofNat_toNat]

/-- A word is read back from its decimal digits. -/
theorem reads_toDigits (w : UInt64) : Reads readWord (Nat.toDigits 10 w.toNat) w := by
  intro gap rest hgap hrest
  have hwhole := isWhole_toDigits w.toNat
  have hnumeral := readNumeral_of_isWhole false hwhole hrest
  have hword := word_toDigits w
  obtain ⟨c, ds, heq, hc⟩ := hwhole.exists_cons
  rw [heq] at hnumeral hword ⊢
  rw [List.cons_append] at hnumeral ⊢
  unfold readWord
  rw [skipBlanks_gap hgap (IsStart.ne (.inr hc)).1]
  split
  · next hminus =>
    rw [(List.cons.inj hminus).1] at hc
    cases hc
  · next hcons =>
    obtain ⟨rfl, rfl⟩ := List.cons.inj hcons
    rw [if_pos hc, readNumber, hnumeral]
    show (Numeral.word _ >>= _) = _
    rw [hword]
    rfl
  · next hnil => cases hnil

/-- A word is read back from the text of its number. -/
theorem reads_write_nat (layout : Layout) (depth : Nat) (w : UInt64) :
    Reads readWord (write layout depth (.nat w.toNat)) w := by
  rw [write_nat]
  exact reads_toDigits w

/-- A word that may be missing is read back. -/
theorem reads_write_ofOption (layout : Layout) (depth : Nat) (f : α → UInt64) (o : Option α) :
    Reads (readNullable readWord) (write layout depth (ofOption (fun a ↦ .nat (f a).toNat) o))
      (o.map f) := by
  cases o with
  | none => exact reads_write_null layout depth readWord
  | some a =>
    have hword := reads_toDigits (f a)
    obtain ⟨c, ds, heq, hc⟩ := (isWhole_toDigits (f a).toNat).exists_cons
    show Reads _ (write layout depth (.nat (f a).toNat)) (some (f a))
    rw [heq] at hword
    rw [write_nat, heq]
    refine hword.nullable (IsStart.ne (.inr hc)).1 ?_
    rintro rfl
    cases hc

/-! ### Lists -/

private theorem nextItem?_close (first : Bool) (hgap : IsGap gap) :
    nextItem? first (gap ++ ']' :: rest) = .ok none := by
  rw [nextItem?, skipBlanks_gap hgap rfl]
  exact if_pos rfl

private theorem nextItem?_first (hgap : IsGap gap) (hcs : Starts cs) :
    nextItem? true (gap ++ cs) = .ok (some cs) := by
  obtain ⟨c, cs, rfl, hc⟩ := hcs
  rw [nextItem?, skipBlanks_gap hgap hc.ne.1]
  show (if c = ']' then _ else _) = _
  rw [if_neg hc.ne.2.2.1, if_pos rfl]

private theorem nextItem?_comma (hbefore : IsGap before) (hbehind : IsGap behind)
    (hcs : Starts cs) :
    nextItem? false (before ++ ',' :: (behind ++ cs)) = .ok (some cs) := by
  obtain ⟨c, cs, rfl, hc⟩ := hcs
  rw [nextItem?, skipBlanks_gap hbefore rfl]
  show (if ',' = ']' then _ else _) = _
  rw [if_neg (by decide), if_neg Bool.false_ne_true, if_pos rfl, skipBlanks_gap hbehind hc.ne.1]
  split
  · next heq => cases heq
  · next heq => exact absurd (List.cons.inj heq).1 hc.ne.2.2.1
  · rfl

private theorem endList_gap (hgap : IsGap gap) : endList (gap ++ ']' :: rest) = .ok rest := by
  rw [endList, skipBlanks_gap hgap rfl]
  rfl

private theorem readItems_close (limit : Nat) (first : Bool) (hgap : IsGap gap) :
    readItems read (limit + 1) first (gap ++ ']' :: rest) = .ok ([], rest) := by
  rw [readItems, nextItem?_close first hgap]
  show (endList _ >>= _) = _
  rw [endList_gap hgap]
  rfl

private theorem readItems_next {limit : Nat} {first : Bool} {item : List Char}
    (hitem : nextItem? first text = .ok (some item)) (ha : read item = .ok (a, cs))
    (has : readItems read limit false cs = .ok (as, rest)) :
    readItems read (limit + 1) first text = .ok (a :: as, rest) := by
  rw [readItems, hitem]
  show (read item >>= _) = _
  rw [ha]
  show (readItems read limit false cs >>= _) = _
  rw [has]
  rfl

/-- Every item has a character of its own. -/
theorem AreSeparated.length_le (h : AreSeparated items cs) (hstarts : ∀ item ∈ items, Starts item) :
    items.length ≤ cs.length := by
  induction h with
  | last item =>
    obtain ⟨c, rest, rfl, -⟩ := hstarts item List.mem_cons_self
    simp
  | next item _ _ _ ih =>
    have hrest := ih (List.forall_mem_cons.mp hstarts).2
    simp only [List.length_cons, List.length_append]
    omega

/-- The items of a list are read one after the other. -/
theorem readItems_of_areSeparated (h : AreSeparated items cs)
    (hread : List.Forall₂ (Reads read) items as) (hstarts : ∀ item ∈ items, Starts item)
    (hback : IsGap back) (extra : Nat) {first : Bool}
    (hnext : nextItem? first text = .ok (some (cs ++ (back ++ ']' :: rest)))) :
    readItems read (extra + items.length + 1) first text = .ok (as, rest) := by
  induction h generalizing as first text with
  | last item =>
    cases hread with
    | cons ha hnil =>
      cases hnil
      have hends : EndsNumber (back ++ ']' :: rest) := endsNumber_of_isGap hback (by decide)
      exact readItems_next hnext (ha [] _ isGap_nil hends) (readItems_close extra false hback)
  | @next item items before behind cs hbefore hbehind h ih =>
    obtain ⟨-, hothers⟩ := List.forall_mem_cons.mp hstarts
    have hends : EndsNumber (before ++ ',' :: (behind ++ (cs ++ (back ++ ']' :: rest)))) :=
      endsNumber_of_isGap hbefore (by decide)
    have hcomma := nextItem?_comma hbefore hbehind
      ((h.starts hothers).append (back ++ ']' :: rest))
    cases hread with
    | cons ha has =>
      simp only [List.append_assoc, List.cons_append] at hnext
      exact readItems_next hnext (ha [] _ isGap_nil hends) (ih has hothers hcomma)

/-- A bracket is read as a list if every item in it is read. -/
theorem Reads.list (h : IsBracketed .list items cs) (hread : List.Forall₂ (Reads read) items as)
    (hstarts : ∀ item ∈ items, Starts item) : Reads (readList read) cs as := by
  intro gap rest hgap _
  cases h with
  | empty hinner =>
    cases hread
    rw [List.cons_append, List.append_assoc, readList, skipBlanks_gap hgap rfl]
    exact readItems_close _ true hinner
  | @items _ front cs back hfront hback h =>
    have hlength := h.length_le hstarts
    have hlimit : items.length ≤ (front ++ (cs ++ (back ++ ']' :: rest))).length := by
      simp only [List.length_append]
      omega
    obtain ⟨extra, hextra⟩ := Nat.exists_eq_add_of_le' hlimit
    have hnext := nextItem?_first hfront ((h.starts hstarts).append (back ++ ']' :: rest))
    have hitems := readItems_of_areSeparated h hread hstarts hback extra hnext
    rw [List.cons_append, readList, skipBlanks_gap hgap rfl]
    simp only [List.append_assoc, List.singleton_append]
    show readItems read ((front ++ (cs ++ (back ++ ']' :: rest))).length + 1) true _ = _
    rw [hextra]
    exact hitems

/-- A list of texts is read back. -/
theorem reads_write_texts (layout : Layout) (depth : Nat) (names : List String) :
    Reads (readList readText) (write layout depth (.list (names.map .text))) names := by
  have hbracket := isBracketed_write_list layout depth (names.map .text)
  rw [List.map_map] at hbracket
  refine .list hbracket ?_ ?_
  · rw [List.forall₂_map_left_iff]
    exact List.forall₂_same.mpr fun name _ ↦ reads_quote name
  · intro item hitem
    obtain ⟨name, -, rfl⟩ := List.mem_map.mp hitem
    exact ⟨'"', _, rfl, .inl (by decide)⟩

end FuncMeta.Json
