import FuncMeta.Proofs.Json.Reads

/-!
# Reading records back

A record is read from an object whose members come in any order, with members among them that are
no fields. `Fills` says member by member what becomes of a draft. Main statements: `Reads.record`,
`isObject_write` and `readAll_of_reads`.
-/

namespace FuncMeta.Json

variable {α σ : Type} {fields : List (Field σ)} {draft result : σ} {read : Reader α} {a : α}
  {member : String × List Char} {members : List (String × List Char)} {name : String}
  {gap before behind front back cs rest after text tail : List Char} {texts : List (List Char)}
  {first : Bool} {limit : Nat}

/-- The text of a member: its name in some spelling, a colon and its value, blanks around the
colon. -/
def IsMemberText (member : String × List Char) (text : List Char) : Prop :=
  ∃ name before behind, Spells name member.1 ∧ IsGap before ∧ IsGap behind ∧
    text = name ++ (before ++ ':' :: (behind ++ member.2))

/-- The characters are an object whose members have the given names and texts as values. -/
def IsObject (members : List (String × List Char)) (cs : List Char) : Prop :=
  ∃ texts, IsBracketed .object texts cs ∧ List.Forall₂ IsMemberText members texts

/-- What the members of an object make of a draft: a field that the draft has not yet enters it, and
any other member is a value that is passed over. -/
inductive Fills (fields : List (Field σ)) : List (String × List Char) → σ → σ → Prop
  /-- No members change nothing. -/
  | nil (draft : σ) : Fills fields [] draft draft
  /-- A field enters the draft. -/
  | field {name : String} {value : List Char} {members : List (String × List Char)}
    {draft result : σ} {field : Field σ} {set : σ → σ}
    (hfind : fields.find? (·.name == name) = some field) (hfree : field.isSet draft = false)
    (hread : Reads field.read value set) (h : Fills fields members (set draft) result) :
    Fills fields ((name, value) :: members) draft result
  /-- A member that is no field is passed over, if it is not nested too deeply. -/
  | foreign {name : String} {value : List Char} {members : List (String × List Char)}
    {draft result : σ} (hfind : fields.find? (·.name == name) = none)
    (hvalue : IsValue (maxDepth - 1) value) (h : Fills fields members draft result) :
    Fills fields ((name, value) :: members) draft result

/-! ### One member -/

private theorem nextName?_close (first : Bool) (hgap : IsGap gap) :
    nextName? first (gap ++ '}' :: rest) = .ok none := by
  rw [nextName?, skipBlanks_gap hgap rfl]
  exact if_pos rfl

private theorem nextName?_first (hgap : IsGap gap) (tail : List Char) :
    nextName? true (gap ++ '"' :: tail) = .ok (some tail) := by
  rw [nextName?, skipBlanks_gap hgap rfl]
  rfl

private theorem nextName?_comma (hbefore : IsGap before) (hbehind : IsGap behind)
    (tail : List Char) :
    nextName? false (before ++ ',' :: (behind ++ '"' :: tail)) = .ok (some tail) := by
  rw [nextName?, skipBlanks_gap hbefore rfl]
  show (if ',' = '}' then _ else _) = _
  rw [if_neg (by decide), if_neg Bool.false_ne_true, if_pos rfl, skipBlanks_gap hbehind rfl]
  rfl

private theorem readMembers_close (limit : Nat) (first : Bool) (draft : σ) (hgap : IsGap gap) :
    readMembers fields (limit + 1) first draft (gap ++ '}' :: rest) = .ok (draft, rest) := by
  have hend : endObject (gap ++ '}' :: rest) = .ok rest := by
    rw [endObject, skipBlanks_gap hgap rfl]
    rfl
  rw [readMembers, nextName?_close first hgap]
  show (endObject _ >>= _) = _
  rw [hend]
  rfl

/-- A member starts with a quote, behind which its name is read, then its colon and its value. -/
theorem IsMemberText.exists_readQuoted (h : IsMemberText member text) (after : List Char) :
    ∃ tail before behind, text ++ after = '"' :: tail ∧ IsGap before ∧ IsGap behind ∧
      readQuoted tail =
        .ok (member.1.toList, before ++ ':' :: (behind ++ (member.2 ++ after))) := by
  obtain ⟨name, before, behind, hname, hbefore, hbehind, rfl⟩ := h
  obtain ⟨tail, heq, hread⟩ :=
    hname.exists_readQuoted (before ++ ':' :: (behind ++ (member.2 ++ after)))
  refine ⟨tail, before, behind, ?_, hbefore, hbehind, hread⟩
  simpa only [List.append_assoc, List.cons_append] using heq

private theorem IsMemberText.starts (h : IsMemberText member text) : Starts text := by
  obtain ⟨tail, _, _, heq, -⟩ := h.exists_readQuoted []
  rw [List.append_nil] at heq
  exact ⟨'"', tail, heq, .inl (by decide)⟩

/-- What reading an object does with a member depends on whether its name is that of a field. -/
theorem readMembers_succ (hnext : nextName? first cs = .ok (some tail))
    (hname : readQuoted tail = .ok (name.toList, rest)) :
    readMembers fields (limit + 1) first draft cs =
      match fields.find? fun field ↦ field.name == name with
      | none => skipColon rest >>= fun rest ↦ skipValue 1 [] rest >>= fun rest ↦
          readMembers fields limit false draft rest
      | some field =>
        if field.isSet draft then .error .mismatch
        else skipColon rest >>= fun rest ↦ field.read rest >>= fun (set, rest) ↦
          readMembers fields limit false (set draft) rest := by
  rw [readMembers, hnext]
  show (readQuoted _ >>= _) = _
  rw [hname]
  show (match fields.find? fun field ↦ field.name == String.ofList name.toList with
    | none => _ | some field => if field.isSet draft then _ else _) = _
  rw [String.ofList_toList]

/-- Reading an object goes on behind its first member with what the member makes of the draft. -/
theorem readMembers_member (hmember : IsMemberText member text)
    (hnext : nextName? first cs = .ok (some tail)) (htail : text ++ after = '"' :: tail)
    (hafter : EndsNumber after) (hfills : Fills fields (member :: members) draft result) :
    ∃ next, Fills fields members next result ∧ ∀ limit answer,
      readMembers fields limit false next after = .ok answer →
        readMembers fields (limit + 1) first draft cs = .ok answer := by
  obtain ⟨_, before, behind, heq, hbefore, hbehind, hname⟩ := hmember.exists_readQuoted after
  rw [htail] at heq
  obtain rfl := List.tail_eq_of_cons_eq heq
  cases hfills with
  | @field _ _ _ _ _ _ set hfind hfree hread h =>
    refine ⟨set draft, h, fun limit answer hrest ↦ ?_⟩
    rw [readMembers_succ hnext hname, hfind]
    show (if _ then _ else skipColon _ >>= _) = _
    rw [hfree, if_neg Bool.false_ne_true, skipColon_gap hbefore]
    show (Field.read _ _ >>= _) = _
    rw [hread behind after hbehind hafter]
    exact hrest
  | foreign hfind hvalue h =>
    refine ⟨draft, h, fun limit answer hrest ↦ ?_⟩
    rw [readMembers_succ hnext hname, hfind]
    show (skipColon _ >>= _) = _
    rw [skipColon_gap hbefore]
    show (skipValue 1 [] _ >>= _) = _
    rw [skipValue_of_isValue (by decide) hbehind hvalue hafter]
    exact hrest

/-! ### Whole objects -/

/-- The first member of an object starts with a quote. -/
theorem AreSeparated.exists_quote (h : AreSeparated texts cs)
    (hmembers : List.Forall₂ IsMemberText members texts) (after : List Char) :
    ∃ tail, cs ++ after = '"' :: tail := by
  cases h with
  | last =>
    cases hmembers with
    | cons hmember =>
      obtain ⟨tail, _, _, heq, -⟩ := hmember.exists_readQuoted after
      exact ⟨tail, heq⟩
  | next item =>
    cases hmembers with
    | cons hmember =>
      rw [List.append_assoc]
      obtain ⟨tail, _, _, heq, -⟩ := hmember.exists_readQuoted _
      exact ⟨tail, heq⟩

/-- The members of an object are read one after the other. -/
theorem readMembers_of_areSeparated (h : AreSeparated texts cs)
    (hmembers : List.Forall₂ IsMemberText members texts)
    (hfills : Fills fields members draft result)
    (hback : IsGap back) (extra : Nat) (hnext : nextName? first text = .ok (some tail))
    (htail : cs ++ (back ++ '}' :: rest) = '"' :: tail) :
    readMembers fields (extra + texts.length + 1) first draft text = .ok (result, rest) := by
  induction h generalizing members draft first text tail with
  | last item =>
    cases hmembers with
    | cons hmember hnil =>
      cases hnil
      have hends : EndsNumber (back ++ '}' :: rest) := endsNumber_of_isGap hback (by decide)
      obtain ⟨next, hlast, hread⟩ := readMembers_member hmember hnext htail hends hfills
      cases hlast
      exact hread _ _ (readMembers_close extra false result hback)
  | @next item texts before behind cs hbefore hbehind h ih =>
    cases hmembers with
    | cons hmember hmembers =>
      simp only [List.append_assoc, List.cons_append] at htail
      have hends : EndsNumber (before ++ ',' :: (behind ++ (cs ++ (back ++ '}' :: rest)))) :=
        endsNumber_of_isGap hbefore (by decide)
      obtain ⟨next, hothers, hread⟩ := readMembers_member hmember hnext htail hends hfills
      obtain ⟨tail', htail'⟩ := h.exists_quote hmembers (back ++ '}' :: rest)
      have hcomma := nextName?_comma hbefore hbehind tail'
      rw [← htail'] at hcomma
      exact hread _ _ (ih hmembers hothers hcomma htail')

/-- Every member has a text of its own, which starts as a value does. -/
theorem starts_of_forall₂ (h : List.Forall₂ IsMemberText members texts) :
    ∀ text ∈ texts, Starts text := by
  induction h with
  | nil => exact List.forall_mem_nil _
  | cons hmember _ ih => exact List.forall_mem_cons.mpr ⟨hmember.starts, ih⟩

/-- An object is read as a record with what its members make of the draft. -/
theorem Reads.record (h : IsObject members cs) (hfills : Fills fields members draft result) :
    Reads (readRecord fields draft) cs result := by
  obtain ⟨texts, hbracket, hmembers⟩ := h
  intro gap rest hgap _
  cases hbracket with
  | empty hinner =>
    cases hmembers
    cases hfills
    show readRecord fields draft (gap ++ ('{' :: (_ ++ ['}']) ++ rest)) = _
    rw [List.cons_append, List.append_assoc, readRecord, skipBlanks_gap hgap rfl]
    exact readMembers_close _ true draft hinner
  | @items _ front cs back hfront hback h =>
    have hlength := h.length_le (starts_of_forall₂ hmembers)
    have hlimit : texts.length ≤ (front ++ (cs ++ (back ++ '}' :: rest))).length := by
      simp only [List.length_append]
      omega
    obtain ⟨extra, hextra⟩ := Nat.exists_eq_add_of_le' hlimit
    obtain ⟨tail, htail⟩ := h.exists_quote hmembers (back ++ '}' :: rest)
    have hnext := nextName?_first hfront tail
    rw [← htail] at hnext
    show readRecord fields draft (gap ++ ('{' :: (front ++ (cs ++ (back ++ ['}']))) ++ rest)) = _
    rw [List.cons_append, readRecord, skipBlanks_gap hgap rfl]
    simp only [List.append_assoc, List.singleton_append]
    show readMembers fields ((front ++ (cs ++ (back ++ '}' :: rest))).length + 1) true draft _ = _
    rw [hextra]
    exact readMembers_of_areSeparated h hmembers hfills hback extra hnext htail

/-- A written object has its members with their written values. -/
theorem isObject_write (layout : Layout) (depth : Nat) (ms : List (String × Json)) :
    IsObject (ms.map fun m ↦ (m.1, write layout (depth + 1) m.2))
      (write layout depth (.object ms)) := by
  have hcolon : ∃ gap, IsGap gap ∧ layout.colon = ':' :: gap := by
    cases layout with
    | compact => exact ⟨[], isGap_nil, rfl⟩
    | pretty => exact ⟨[' '], List.forall_mem_singleton.mpr rfl, rfl⟩
  obtain ⟨gap, hgap, hcolon⟩ := hcolon
  refine ⟨_, isBracketed_write_object layout depth ms, ?_⟩
  rw [List.forall₂_map_left_iff, List.forall₂_map_right_iff]
  refine List.forall₂_same.mpr fun m _ ↦ ⟨_, [], gap, spells_quote m.1, isGap_nil, hgap, ?_⟩
  rw [writeMember, hcolon]
  rfl

/-- A text that a reader takes is read as a whole, whatever blanks stand around it. -/
theorem readAll_of_reads (h : Reads read cs a) (hfront : IsGap front) (hback : IsGap back) :
    readAll read (.ofList (front ++ (cs ++ back))) = .ok a := by
  have hends : EndsNumber back := endsNumber_gap hback
  have hblank : skipBlanks back = [] := by
    rw [← List.append_nil back, skipBlanks_append hback]
    rfl
  rw [readAll, String.toList_ofList, h front back hfront hends]
  exact if_pos hblank

/-- A value is read back from the whole of its text. -/
theorem readAll_render {layout : Layout} {v : Json} (h : Reads read (write layout 0 v) a) :
    readAll read (v.render layout) = .ok a := by
  have hall := readAll_of_reads h isGap_nil isGap_nil
  rw [List.nil_append, List.append_nil] at hall
  exact hall

end FuncMeta.Json
