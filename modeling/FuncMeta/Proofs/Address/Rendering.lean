import FuncMeta.Proofs.Address.Literal
import FuncMeta.Proofs.Json.Grammar
import FuncMeta.Report.Json
import FuncMeta.Report.Text

/-!
# Addresses as they are shown

Whatever an address is shown as with a prefix or in decimal can be typed back: underscores may stand
anywhere among the digits, and blanks around the whole. A least number of digits adds zeros and
never takes a digit away, so different addresses look different. Main statement:
`parse?_of_any_rendering`.
-/

namespace FuncMeta.Address

/-- Underscores stand anywhere among the characters of a text. -/
inductive IsSeparated : (plain spaced : List Char) → Prop
  /-- There is nothing to separate. -/
  | nil : IsSeparated [] []
  /-- A character of the text is next. -/
  | keep (c : Char) {plain spaced : List Char} (h : IsSeparated plain spaced) :
    IsSeparated (c :: plain) (c :: spaced)
  /-- An underscore is next. -/
  | separator {plain spaced : List Char} (h : IsSeparated plain spaced) :
    IsSeparated plain ('_' :: spaced)

/-- A shown text has the given prefix, and typed back with underscores anywhere behind the prefix
and blanks around the whole it stands for an address. -/
def IsTypedBack (a : Address) (lead : List Char) (shown : String) : Prop :=
  ∃ digits, shown.toList = lead ++ digits ∧
    ∀ body front back, IsSeparated digits body → Blank.IsRun front → Blank.IsRun back →
      parse? (.ofList (front ++ (lead ++ body) ++ back)) = some a

variable {a : Address} {plain spaced digits body : List Char} {base n : Nat} {shown : String}

private theorem IsSeparated.withoutSeparators_eq (h : IsSeparated plain spaced) :
    withoutSeparators spaced = withoutSeparators plain := by
  induction h with
  | nil => rfl
  | keep c _ ih =>
    unfold withoutSeparators at ih ⊢
    rw [List.filter_cons, List.filter_cons, ih]
  | separator _ ih =>
    unfold withoutSeparators at ih ⊢
    rw [List.filter_cons_of_neg (by decide), ih]

/-- An underscore is no digit. -/
theorem withoutSeparators_of_areDigits (hbase : base ≤ 16)
    (h : Numeral.AreDigits base digits n) : withoutSeparators digits = digits := by
  have hdigits : Numeral.hexDigits.all (· != '_') = true := by decide
  apply List.filter_eq_self.mpr
  intro c hc
  obtain ⟨d, hd⟩ := h.exists_isDigit hc
  exact List.all_eq_true.mp hdigits c (hd.mem_hexDigits hbase)

private theorem isNumeral_of_isSeparated (hbase : base ≤ 16) (h : Numeral.AreDigits base digits n)
    (hbody : IsSeparated digits body) : Numeral.IsNumeral base (withoutSeparators body) n := by
  refine ⟨[], digits, .inl rfl, ?_, h⟩
  rw [hbody.withoutSeparators_eq, withoutSeparators_of_areDigits hbase h, List.nil_append]

/-- Digits behind a prefix are typed back. -/
theorem isTypedBack_of_hexadecimal (hshown : shown.toList = ['0', 'x'] ++ digits)
    (h : Numeral.AreDigits 16 digits a.toNat) : a.IsTypedBack ['0', 'x'] shown := by
  refine ⟨digits, hshown, ?_⟩
  intro body front back hbody
  apply parse?_ofList_of_isRun
  apply (ofLiteral?_eq_some_iff_of_isForm (.hexadecimal (.inl rfl) body)).mpr
  exact isNumeral_of_isSeparated (by decide) h hbody

/-- Decimal digits are typed back. No underscores make a prefix of them. -/
theorem isTypedBack_of_decimal (h : Numeral.AreDigits 10 shown.toList a.toNat) :
    a.IsTypedBack [] shown := by
  refine ⟨shown.toList, rfl, ?_⟩
  intro body front back hbody
  have hn := isNumeral_of_isSeparated (by decide) h hbody
  apply parse?_ofList_of_isRun
  exact (ofLiteral?_eq_some_iff_of_isForm (isForm_of_isNumeral hn rfl)).mpr hn

private theorem isTypedBack_render (width : Nat) (a : Address) :
    a.IsTypedBack ['0', 'x'] (a.render width) :=
  isTypedBack_of_hexadecimal (by rw [render, String.toList_append]; rfl)
    (Numeral.areDigits_hex width a.toNat)

private theorem isTypedBack_renderUpper (width : Nat) (a : Address) :
    a.IsTypedBack ['0', 'x'] (a.renderUpper width) :=
  isTypedBack_of_hexadecimal (by rw [renderUpper, String.toList_append]; rfl)
    (Numeral.areDigits_upperHex width a.toNat)

/-- The number that stands for an address in a report has decimal digits only. -/
theorem toList_render_toJson (layout : Json.Layout) (a : Address) :
    (a.toJson.render layout).toList = Nat.toDigits 10 a.toNat := by
  rw [Json.render, String.toList_ofList, toJson, Json.write_nat]

private theorem isTypedBack_toJson (layout : Json.Layout) (a : Address) :
    a.IsTypedBack [] (a.toJson.render layout) := by
  apply isTypedBack_of_decimal
  rw [toList_render_toJson]
  exact Numeral.areDigits_toDigits (by decide) a.toNat

private theorem IsSeparated.refl (plain : List Char) : IsSeparated plain plain := by
  induction plain with
  | nil => exact .nil
  | cons c _ ih => exact .keep c ih

/-- What is typed just as it is shown stands for the address. -/
theorem IsTypedBack.parse?_eq {lead : List Char} (h : a.IsTypedBack lead shown) :
    parse? shown = some a := by
  obtain ⟨digits, hshown, hparse⟩ := h
  have hsame := hparse digits [] [] (.refl digits) (List.forall_mem_nil _) (List.forall_mem_nil _)
  rwa [List.nil_append, List.append_nil, ← hshown, String.ofList_toList] at hsame

private theorem toList_hex (width n : Nat) : (Numeral.hex width n).toList =
    List.replicate (width - (Nat.toDigits 16 n).length) '0' ++ Nat.toDigits 16 n := by
  rw [Numeral.hex, String.toList_ofList, List.leftpad]

/-- However many digits are asked for, those that an address has are all shown. -/
theorem lowerDigits_suffix_render (width : Nat) (a : Address) :
    a.lowerDigits.toList <:+ (a.render width).toList := by
  have hone : 1 - (Nat.toDigits 16 a.toNat).length = 0 :=
    Nat.sub_eq_zero_of_le Nat.length_toDigits_pos
  rw [render, lowerDigits, String.toList_append, toList_hex, toList_hex, hone, List.replicate_zero,
    List.nil_append, ← List.append_assoc]
  exact List.suffix_append ..

/-- Every way to show an address with a prefix or in decimal can be typed back, with underscores
anywhere behind the prefix and blanks around the whole: in full, with any least number of digits of
either case, in a report of any layout, and as the number in its JSON form. A report never drops
digits, so under one layout two addresses are never shown as the same text. -/
theorem parse?_of_any_rendering (a : Address) :
    a.IsTypedBack ['0', 'x'] (toString a) ∧
      (∀ width, a.IsTypedBack ['0', 'x'] (a.render width) ∧
        a.IsTypedBack ['0', 'x'] (a.renderUpper width)) ∧
      (∀ layout : TextLayout, a.IsTypedBack ['0', 'x'] (layout.address a)) ∧
      (∀ layout : Json.Layout, a.IsTypedBack [] (a.toJson.render layout)) ∧
      ∀ layout : TextLayout, a.lowerDigits.toList <:+ (layout.address a).toList ∧
        ∀ b : Address, layout.address a = layout.address b → a = b := by
  refine ⟨isTypedBack_render 16 a, fun width ↦ ⟨isTypedBack_render width a,
    isTypedBack_renderUpper width a⟩, fun layout ↦ isTypedBack_render layout.addressWidth a,
    fun layout ↦ isTypedBack_toJson layout a, fun layout ↦ ⟨?_, ?_⟩⟩
  · exact lowerDigits_suffix_render layout.addressWidth a
  · intro b hsame
    have ha := (isTypedBack_render layout.addressWidth a).parse?_eq
    have hb := (isTypedBack_render layout.addressWidth b).parse?_eq
    rw [TextLayout.address, TextLayout.address] at hsame
    rw [hsame, hb] at ha
    exact (Option.some.inj ha).symm

/-- An address of eight digits is shown by a layout for four, and typed back with underscores and
blanks, as is its number. Its neighbour looks different. -/
theorem parse?_of_any_rendering_wide :
    let layout : TextLayout := { addressWidth := 4 }
    layout.address (ofNat 0xdeadbeef) = "0xdeadbeef" ∧
      parse? " 0x_dead__beef\n" = some (ofNat 0xdeadbeef) ∧
      parse? "3_735_928_559_" = some (ofNat 0xdeadbeef) ∧
      layout.address (ofNat 0xdeadbeef) ≠ layout.address (ofNat 0xdeadbeee) := by
  intro layout
  have hshown : layout.address (ofNat 0xdeadbeef) = "0xdeadbeef" := by decide +kernel
  have hnumber : ((ofNat 0xdeadbeef).toJson.render .compact).toList = "3735928559".toList := by
    decide +kernel
  obtain ⟨-, -, hreport, hjson, hdistinct⟩ := parse?_of_any_rendering (ofNat 0xdeadbeef)
  refine ⟨hshown, ?_, ?_, ?_⟩
  · obtain ⟨digits, hdigits, hparse⟩ := hreport layout
    rw [hshown] at hdigits
    have hlead : ['0', 'x'] ++ "deadbeef".toList = ['0', 'x'] ++ digits := hdigits
    obtain rfl := List.append_cancel_left hlead
    exact hparse "_dead__beef".toList [' '] ['\n']
      (.separator (.keep _ (.keep _ (.keep _ (.keep _ (.separator (.separator (.refl _))))))))
      (List.forall_mem_singleton.mpr rfl) (List.forall_mem_singleton.mpr rfl)
  · obtain ⟨digits, hdigits, hparse⟩ := hjson .compact
    rw [hnumber] at hdigits
    obtain rfl : "3735928559".toList = digits := hdigits
    exact hparse "3_735_928_559_".toList [] []
      (.keep _ (.separator (.keep _ (.keep _ (.keep _ (.separator (.keep _ (.keep _ (.keep _
        (.separator (.keep _ (.keep _ (.keep _ (.separator .nil))))))))))))))
      (List.forall_mem_nil _) (List.forall_mem_nil _)
  · intro hsame
    have heq := (hdistinct layout).2 (ofNat 0xdeadbeee) hsame
    exact absurd heq (by decide)

end FuncMeta.Address
