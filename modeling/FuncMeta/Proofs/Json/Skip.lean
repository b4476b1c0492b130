import FuncMeta.Proofs.Json.Scalar

/-!
# Skipping values

A value is skipped as a whole, whatever it is, unless its brackets together with those around it are
nested too deeply. Main statement: `skipValue_of_isValue`.
-/

namespace FuncMeta.Json

variable {gap cs lead value rest : List Char} {c : Char} {b : Bracket} {depth inner : Nat}
  {outer : List Bracket} {items : List (List Char)}

private theorem opened?_opening (b : Bracket) : Bracket.opened? b.opening = some b := by
  cases b <;> rfl

private theorem isBlank_opening (b : Bracket) : isBlank b.opening = false := by
  cases b <;> rfl

private theorem isBlank_close (b : Bracket) : isBlank b.close = false := by
  cases b <;> rfl

private theorem IsStart.ne_close (h : IsStart c) : c ≠ b.close := by
  cases b with
  | list => exact h.ne.2.2.1
  | object => exact h.ne.2.2.2

/-! ### One step -/

private theorem skipValue_opening (hgap : IsGap gap) (hdepth : depth + outer.length < maxDepth) :
    skipValue depth outer (gap ++ b.opening :: rest) = skipRest depth true (b :: outer) rest := by
  rw [skipValue]
  split
  · next heq =>
    rw [skipBlanks_gap hgap (isBlank_opening b)] at heq
    cases heq
  · next heq =>
    rw [skipBlanks_gap hgap (isBlank_opening b)] at heq
    obtain ⟨rfl, rfl⟩ := List.cons.inj heq
    rw [opened?_opening]
    exact if_neg (Nat.not_le.mpr hdepth)

private theorem skipValue_scalar (hgap : IsGap gap) (h : IsScalar cs) (hrest : EndsNumber rest) :
    skipValue depth outer (gap ++ (cs ++ rest)) = skipRest depth false outer rest := by
  obtain ⟨c, tail, rfl, hc, hopened⟩ := h.isStart
  have hscalar := skipScalar_of_isScalar h rfl hrest
  rw [List.cons_append, skipValue]
  split
  · next heq =>
    rw [skipBlanks_gap hgap hc.ne.1] at heq
    cases heq
  · next heq =>
    rw [skipBlanks_gap hgap hc.ne.1] at heq
    obtain ⟨rfl, rfl⟩ := List.cons.inj heq
    simp only [hopened]
    split
    · next hs =>
      rw [hscalar] at hs
      cases hs
    · next hs =>
      rw [hscalar] at hs
      cases hs
      rfl

/-- Skipping the rest of a bracket goes by its first character. -/
theorem skipRest_eq (fresh : Bool) (hskip : skipBlanks cs = c :: rest) :
    skipRest depth fresh (b :: outer) cs =
      if c = b.close then skipRest depth false outer rest
      else if fresh then b.skipLead (c :: rest) >>= skipValue depth (b :: outer)
      else if c = ',' then b.skipLead rest >>= skipValue depth (b :: outer)
      else .error .malformed := by
  rw [skipRest]
  split
  · next heq =>
    rw [hskip] at heq
    cases heq
  · next heq =>
    rw [hskip] at heq
    obtain ⟨rfl, rfl⟩ := List.cons.inj heq
    refine ite_congr rfl (fun _ ↦ rfl) fun _ ↦ ite_congr rfl (fun _ ↦ ?_) fun _ ↦
      ite_congr rfl (fun _ ↦ ?_) fun _ ↦ rfl
    all_goals
      split
      · next hl =>
        rw [hl]
        rfl
      · next hl =>
        rw [hl]
        rfl

private theorem skipRest_close (fresh : Bool) (hgap : IsGap gap) :
    skipRest depth fresh (b :: outer) (gap ++ b.close :: rest) =
      skipRest depth false outer rest := by
  rw [skipRest_eq fresh (skipBlanks_gap hgap (isBlank_close b)), if_pos rfl]

private theorem skipRest_first (hgap : IsGap gap) (hc : IsStart c)
    (hlead : b.skipLead (c :: cs) = .ok rest) :
    skipRest depth true (b :: outer) (gap ++ c :: cs) = skipValue depth (b :: outer) rest := by
  rw [skipRest_eq true (skipBlanks_gap hgap hc.ne.1), if_neg hc.ne_close, if_pos rfl, hlead]
  rfl

private theorem skipRest_comma (hgap : IsGap gap) (hlead : b.skipLead cs = .ok rest) :
    skipRest depth false (b :: outer) (gap ++ ',' :: cs) = skipValue depth (b :: outer) rest := by
  have hclose : ',' ≠ b.close := by cases b <;> decide
  rw [skipRest_eq false (skipBlanks_gap hgap rfl), if_neg hclose, if_neg Bool.false_ne_true,
    if_pos rfl, hlead]
  rfl

/-- A colon is passed over together with the gap in front of it. -/
theorem skipColon_gap (hgap : IsGap gap) : skipColon (gap ++ ':' :: rest) = .ok rest := by
  rw [skipColon, skipBlanks_gap hgap rfl]
  rfl

/-- Skipping what stands in front of a value leaves at most blanks in front of it. -/
theorem exists_skipLead_eq (h : IsLead b lead) (hgap : IsGap gap) (cs : List Char) :
    ∃ front, IsGap front ∧ b.skipLead (gap ++ (lead ++ cs)) = .ok (front ++ cs) := by
  cases h with
  | list => exact ⟨gap, hgap, rfl⟩
  | object hname hbefore hbehind =>
    obtain ⟨tail, rfl, htail⟩ := hname.exists_cons
    refine ⟨_, hbehind, ?_⟩
    simp only [List.append_assoc, List.cons_append]
    rw [Bracket.skipLead, skipBlanks_gap hgap rfl]
    show (skipQuoted _ >>= skipColon) = _
    rw [htail]
    exact skipColon_gap hbefore

/-! ### Whole values -/

/-- Values with at most `inner` brackets inside each other are skipped, whatever is open around
them, as long as there are not too many brackets in all. -/
def SkipsValues (depth inner : Nat) : Prop :=
  ∀ (outer : List Bracket) (gap value rest : List Char), depth + outer.length + inner ≤ maxDepth →
    IsGap gap → IsValue inner value → EndsNumber rest →
    skipValue depth outer (gap ++ (value ++ rest)) = skipRest depth false outer rest

/-- The items of a bracket are skipped one after the other. -/
theorem exists_skipLead_of_areSeparated (hvalues : SkipsValues depth inner)
    (hdepth : depth + (b :: outer).length + inner ≤ maxDepth) (h : AreSeparated items cs)
    (hitems : ∀ item ∈ items, ∃ lead value, item = lead ++ value ∧ IsLead b lead ∧
      IsValue inner value) (hgap : IsGap gap) (hrest : EndsNumber rest) :
    ∃ first, b.skipLead (gap ++ (cs ++ rest)) = .ok first ∧
      skipValue depth (b :: outer) first = skipRest depth false (b :: outer) rest := by
  induction h generalizing gap with
  | last item =>
    obtain ⟨lead, value, rfl, hlead, hvalue⟩ := hitems item List.mem_cons_self
    obtain ⟨front, hfront, hskip⟩ := exists_skipLead_eq hlead hgap (value ++ rest)
    rw [List.append_assoc]
    exact ⟨_, hskip, hvalues _ _ _ _ hdepth hfront hvalue hrest⟩
  | @next item items before behind cs hbefore hbehind h ih =>
    obtain ⟨⟨lead, value, rfl, hlead, hvalue⟩, hothers⟩ := List.forall_mem_cons.mp hitems
    obtain ⟨second, hsecond, hend⟩ := ih hothers hbehind
    obtain ⟨front, hfront, hskip⟩ := exists_skipLead_eq hlead hgap
      (value ++ (before ++ ',' :: (behind ++ (cs ++ rest))))
    have hends : EndsNumber (before ++ ',' :: (behind ++ (cs ++ rest))) :=
      endsNumber_of_isGap hbefore (by decide)
    simp only [List.append_assoc, List.cons_append]
    refine ⟨_, hskip, ?_⟩
    rw [hvalues _ _ _ _ hdepth hfront hvalue hends, skipRest_comma hbefore hsecond, hend]

/-- Whole values are skipped, by induction on how deeply their brackets are nested. -/
theorem skipsValues (depth inner : Nat) : SkipsValues depth inner := by
  induction inner with
  | zero =>
    intro outer gap value rest _ hgap hvalue hrest
    exact skipValue_scalar hgap hvalue hrest
  | succ inner ih =>
    intro outer gap value rest hdepth hgap hvalue hrest
    rcases hvalue with hscalar | ⟨b, items, hbracket, hitems⟩
    · exact skipValue_scalar hgap hscalar hrest
    · have hopen : depth + outer.length < maxDepth := by omega
      cases hbracket with
      | empty hinner =>
        rw [List.cons_append, List.append_assoc, List.singleton_append,
          skipValue_opening hgap hopen, skipRest_close true hinner]
      | @items _ front cs back hfront hback h =>
        have hends : EndsNumber (back ++ b.close :: rest) :=
          endsNumber_of_isGap hback (by cases b <;> decide)
        have hinner : depth + (b :: outer).length + inner ≤ maxDepth := by
          rw [List.length_cons]
          omega
        obtain ⟨first, hfirst, hskip⟩ :=
          exists_skipLead_of_areSeparated ih hinner h hitems isGap_nil hends
        have hstarts : ∀ item ∈ items, Starts item := by
          intro item hitem
          obtain ⟨lead, value, rfl, hlead, hvalue⟩ := hitems item hitem
          exact hlead.starts_append hvalue.starts
        obtain ⟨c, tail, rfl, hc⟩ := h.starts hstarts
        simp only [List.append_assoc, List.cons_append, List.nil_append] at hfirst ⊢
        rw [skipValue_opening hgap hopen, skipRest_first hfront hc hfirst, hskip,
          skipRest_close false hback]

/-- A value is skipped as a whole, whatever blanks stand in front of it. -/
theorem skipValue_of_isValue (hdepth : depth + inner ≤ maxDepth) (hgap : IsGap gap)
    (hvalue : IsValue inner value) (hrest : EndsNumber rest) :
    skipValue depth [] (gap ++ (value ++ rest)) = .ok rest := by
  rw [skipsValues depth inner [] gap value rest hdepth hgap hvalue hrest, skipRest]

end FuncMeta.Json
