import FuncMeta.Proofs.Image.Audit
import FuncMeta.Proofs.Symbol.Agreement

/-!
# Lookups in a clean image

In an image that an audit finds clean the code of the functions lies side by side: each function
runs up to the next one, and the last one up to the end that the table gives. So every name is found
or missing, and every address between the first entry and that end lies in exactly one function, the
last one that does not start above it. Main statement: `lookups_of_clean_audit`.
-/

namespace FuncMeta

/-- The functions with their code: each runs up to the next one, and the last one up to `stop`. -/
def spansUpTo (stop : Address) (symbols : List Symbol) : List Span :=
  symbols.zipWith (fun s next ↦ { symbol := s, range := { start := s.address, stop := next } })
    ((symbols.drop 1).map Symbol.address ++ [stop])

/-- There is a span for each symbol. -/
theorem length_spansUpTo (stop : Address) (symbols : List Symbol) :
    (spansUpTo stop symbols).length = symbols.length := by
  rw [spansUpTo, List.length_zipWith, List.length_append, List.length_map, List.length_drop,
    List.length_singleton]
  omega

namespace Image

variable {t : Image} {symbols : List Symbol} {pc : Address}

/-- A sound image has a listing of all its records. -/
theorem IsSound.exists_listing (h : t.IsSound) : ∃ symbols, t.Listing t.count 0 symbols none := by
  obtain ⟨symbols, failure?, hlist⟩ := Image.exists_listing t t.count 0
  cases failure? with
  | none => exact ⟨symbols, hlist⟩
  | some e =>
    obtain ⟨hlt, hfailed⟩ := hlist.symbolAt_length
    obtain ⟨name, hname⟩ := h.name _ hlt
    rw [Nat.zero_add, symbolAt, record_of_hasRecord h.isWordSize
      (h.hasRecord.of_le (Nat.le_of_lt hlt)), Outcome.ok_bind, symbol_eq_error_iff, hname]
      at hfailed
    cases hfailed

variable (h : t.IsSound) (hlist : t.Listing t.count 0 symbols none)

include h hlist

/-- The record at an index of a sound image has the symbol listed at that index. -/
theorem symbol_recordAt (i : Nat) (hi : i < symbols.length) :
    t.symbol (t.recordAt i) = .ok symbols[i] := by
  have hs := hlist.symbolAt_add i hi
  rw [hlist.length_eq] at hi
  rwa [Nat.zero_add, symbolAt, record_of_hasRecord h.isWordSize
    (h.hasRecord.of_le (Nat.le_of_lt hi)), Outcome.ok_bind] at hs

/-- The symbol listed at an index has the entry of the record there. -/
theorem address_getElem (i : Nat) (hi : i < symbols.length) :
    symbols[i].address = t.entryAt i :=
  (symbol_eq_ok_iff.mp (symbol_recordAt h hlist i hi)).2.symm

/-- The code of a function lies between its entry and the entry after it. -/
theorem getElem_spansUpTo (i : Nat) (hi : i < symbols.length)
    (hspan : i < (spansUpTo (t.entryAt t.count) symbols).length) :
    (spansUpTo (t.entryAt t.count) symbols)[i] =
      { symbol := symbols[i],
        range := { start := t.entryAt i, stop := t.entryAt (i + 1) } } := by
  simp only [spansUpTo, List.getElem_zipWith, address_getElem h hlist i hi]
  by_cases hnext : i + 1 < symbols.length
  · rw [List.getElem_append_left (by rw [List.length_map, List.length_drop]; omega),
      List.getElem_map, List.getElem_drop]
    simp only [Nat.add_comm 1 i, address_getElem h hlist (i + 1) hnext]
  · have hlast : i + 1 = t.count := by rw [← hlist.length_eq]; omega
    rw [List.getElem_append_right (by rw [List.length_map, List.length_drop]; omega),
      List.getElem_singleton, hlast]

private theorem contains_getElem_iff (i : Nat)
    (hspan : i < (spansUpTo (t.entryAt t.count) symbols).length) :
    (spansUpTo (t.entryAt t.count) symbols)[i].range.contains pc = true ↔
      t.entryAt i ≤ pc ∧ pc < t.entryAt (i + 1) := by
  have hi : i < symbols.length := by rwa [length_spansUpTo] at hspan
  rw [getElem_spansUpTo h hlist i hi, AddressRange.contains_iff]

omit hlist in
/-- An address that lies in no function is not found. -/
theorem functionAt_eq_none
    (hout : t.count = 0 ∨ pc < t.entryAt 0 ∨ t.entryAt t.count ≤ pc) :
    t.functionAt pc = .ok none := by
  rw [functionAt, find?_eq_none h.isWordSize h.hasRecord hout]
  rfl

/-- Any other address is found in a function whose code contains it. -/
theorem functionAt_eq_some (hcount : t.count ≠ 0) (hfirst : t.entryAt 0 ≤ pc)
    (hlast : pc < t.entryAt t.count) :
    ∃ i, ∃ hi : i < (spansUpTo (t.entryAt t.count) symbols).length,
      t.entryAt i ≤ pc ∧ pc < t.entryAt (i + 1) ∧
        t.functionAt pc = .ok (some (spansUpTo (t.entryAt t.count) symbols)[i]) := by
  obtain ⟨i, hi, hle, hlt, hfind⟩ := find?_eq_some h.isWordSize h.hasRecord hcount hfirst hlast
  rw [← hlist.length_eq] at hi
  have hspan : i < (spansUpTo (t.entryAt t.count) symbols).length := by rwa [length_spansUpTo]
  refine ⟨i, hspan, hle, hlt, ?_⟩
  rw [functionAt, hfind, Outcome.ok_bind, getElem_spansUpTo h hlist i hi hspan]
  dsimp only
  rw [symbol_recordAt h hlist i hi]
  rfl

omit hlist in
/-- No address lies in two functions. -/
theorem eq_of_between {i j : Nat} (hi : i < t.count) (hj : j < t.count)
    (hpi : t.entryAt i ≤ pc ∧ pc < t.entryAt (i + 1))
    (hpj : t.entryAt j ≤ pc ∧ pc < t.entryAt (j + 1)) : i = j := by
  rcases Nat.lt_trichotomy i j with hlt | heq | hgt
  · have hle := h.entryAt_le (i + 1) j hlt (Nat.le_of_lt hj)
    exact absurd (Address.le_trans hle hpj.1) (Address.not_le.mpr hpi.2)
  · exact heq
  · have hle := h.entryAt_le (j + 1) i hgt (Nat.le_of_lt hi)
    exact absurd (Address.le_trans hle hpi.1) (Address.not_le.mpr hpj.2)

/-- An address lies outside all functions if it lies below the first one or behind the last one. -/
theorem outside_iff :
    (symbols = [] ∨ (∃ first, symbols.head? = some first ∧ pc < first.address) ∨
        t.entryAt t.count ≤ pc) ↔
      (t.count = 0 ∨ pc < t.entryAt 0 ∨ t.entryAt t.count ≤ pc) := by
  have hlength := hlist.length_eq
  cases symbols with
  | nil => exact ⟨fun _ ↦ .inl hlength.symm, fun _ ↦ .inl rfl⟩
  | cons first rest =>
    have hfirst : first.address = t.entryAt 0 := address_getElem h hlist 0 (Nat.succ_pos _)
    have hcount : t.count ≠ 0 := by rw [← hlength, List.length_cons]; exact Nat.succ_ne_zero _
    simp only [reduceCtorEq, hcount, false_or, List.head?_cons, Option.some.injEq,
      exists_eq_left', hfirst]

/-- That function is the last one that does not start above the address, and the only one whose
code contains it. -/
theorem functionAt_eq_last (hcount : t.count ≠ 0) (hfirst : t.entryAt 0 ≤ pc)
    (hlast : pc < t.entryAt t.count) :
    ∃ i, ∃ hi : i < (spansUpTo (t.entryAt t.count) symbols).length,
      t.functionAt pc = .ok (some (spansUpTo (t.entryAt t.count) symbols)[i]) ∧
        (spansUpTo (t.entryAt t.count) symbols)[i].range.contains pc = true ∧
        ∀ j, ∀ hj : j < (spansUpTo (t.entryAt t.count) symbols).length,
          ((spansUpTo (t.entryAt t.count) symbols)[j].range.start ≤ pc → j ≤ i) ∧
          ((spansUpTo (t.entryAt t.count) symbols)[j].range.contains pc = true → j = i) := by
  obtain ⟨i, hi, hle, hlt, hfound⟩ := functionAt_eq_some h hlist hcount hfirst hlast
  refine ⟨i, hi, hfound, (contains_getElem_iff h hlist i hi).mpr ⟨hle, hlt⟩, ?_⟩
  intro j hj
  have hjSymbols : j < symbols.length := by rwa [length_spansUpTo] at hj
  rw [contains_getElem_iff h hlist j hj, getElem_spansUpTo h hlist j hjSymbols hj]
  rw [length_spansUpTo, hlist.length_eq] at hi hj
  constructor
  · intro hstart
    apply Nat.le_of_not_lt
    intro hgt
    apply Address.not_le.mpr hlt
    exact Address.le_trans (h.entryAt_le (i + 1) j hgt (Nat.le_of_lt hj)) hstart
  · intro hpj
    exact eq_of_between h hj hi hpj ⟨hle, hlt⟩

/-- The search by address gives what a search through all functions gives. -/
theorem functionAt_eq_find? (pc : Address) :
    t.functionAt pc =
      .ok ((spansUpTo (t.entryAt t.count) symbols).find? (·.range.contains pc)) := by
  by_cases hout : t.count = 0 ∨ pc < t.entryAt 0 ∨ t.entryAt t.count ≤ pc
  · rw [functionAt_eq_none h hout]
    refine congrArg Outcome.ok (Eq.symm (List.find?_eq_none.mpr fun span hspan hin ↦ ?_))
    obtain ⟨i, hi, rfl⟩ := List.mem_iff_getElem.mp hspan
    obtain ⟨hle, hlt⟩ := (contains_getElem_iff h hlist i hi).mp hin
    have hcount : i < t.count := by rwa [length_spansUpTo, hlist.length_eq] at hi
    rcases hout with hzero | hbelow | habove
    · omega
    · exact Address.not_le.mpr hbelow
        (Address.le_trans (h.entryAt_le 0 i (Nat.zero_le _) (Nat.le_of_lt hcount)) hle)
    · exact Address.not_le.mpr hlt
        (Address.le_trans (h.entryAt_le (i + 1) t.count hcount (Nat.le_refl _)) habove)
  · obtain ⟨hcount, hbetween⟩ := not_or.mp hout
    obtain ⟨hfirst, hlast⟩ := not_or.mp hbetween
    obtain ⟨i, hi, hfound, hcontains, hrest⟩ := functionAt_eq_last h hlist hcount
      (Address.not_lt.mp hfirst) (Address.not_le.mp hlast)
    rw [hfound]
    refine congrArg Outcome.ok (Eq.symm
      (List.find?_eq_some_iff_getElem.mpr ⟨hcontains, i, hi, rfl, ?_⟩))
    intro j hj
    rw [Bool.not_eq_true', Bool.eq_false_iff]
    intro hin
    exact Nat.ne_of_lt hj ((hrest j (Nat.lt_trans hj hi)).2 hin)

end Image

namespace Region

variable {r : Region} {a : Audit}

/-- In an image that an audit finds clean every name is found or missing. An address is looked up as
a search through all functions would do it: nothing is found if there is no function, below the
first one, and from the end of the last one on. Any other address lies in the code of exactly one
function, the last one that does not start above it. -/
theorem lookups_of_clean_audit (h : r.audit = .ok a) (hclean : a.isClean = true) :
    ∃ t symbols stop, Image.ofRegion r = .ok t ∧ t.Listing t.count 0 symbols none ∧
      t.endOfText = .ok stop ∧
      (∀ name, (∃ address, r.resolve name = .ok address) ∨
        r.resolve name = .error (.notFound name)) ∧
      ∀ pc,
        r.functionAt pc = .ok ((spansUpTo stop symbols).find? (·.range.contains pc)) ∧
        (r.functionAt pc = .ok none ↔
          symbols = [] ∨ (∃ first, symbols.head? = some first ∧ pc < first.address) ∨
            stop ≤ pc) ∧
        (r.functionAt pc ≠ .ok none →
          ∃ i, ∃ hi : i < (spansUpTo stop symbols).length,
            r.functionAt pc = .ok (some (spansUpTo stop symbols)[i]) ∧
            (spansUpTo stop symbols)[i].range.contains pc = true ∧
            ∀ j, ∀ hj : j < (spansUpTo stop symbols).length,
              ((spansUpTo stop symbols)[j].range.start ≤ pc → j ≤ i) ∧
              ((spansUpTo stop symbols)[j].range.contains pc = true → j = i)) := by
  obtain ⟨t, ht, haudit⟩ := exists_image_of_audit h
  obtain ⟨hsound, -⟩ := Image.isSound_of_audit (Image.isWordSize_of_ofRegion ht) haudit hclean
  obtain ⟨symbols, hlist⟩ := hsound.exists_listing
  have hfunctionAt (pc : Address) : r.functionAt pc = (t.functionAt pc).mapError .layout := by
    rw [functionAt, ask_of_ok ht]
  refine ⟨t, symbols, t.entryAt t.count, ht, hlist,
    Image.endOfText_of_hasRecord hsound.isWordSize hsound.hasRecord, ?_, ?_⟩
  · intro name
    rw [resolve, ask_of_ok ht, Image.resolve_eq hlist]
    unfold answer
    cases entryOf? symbols name with
    | some address => exact .inl ⟨address, rfl⟩
    | none => exact .inr rfl
  · intro pc
    rw [hfunctionAt, Image.outside_iff hsound hlist]
    refine ⟨by rw [Image.functionAt_eq_find? hsound hlist, Outcome.mapError_ok], ?_⟩
    by_cases hout : t.count = 0 ∨ pc < t.entryAt 0 ∨ t.entryAt t.count ≤ pc
    · rw [Image.functionAt_eq_none hsound hout]
      exact ⟨iff_of_true rfl hout, fun hne ↦ absurd rfl hne⟩
    · obtain ⟨hcount, hbetween⟩ := not_or.mp hout
      obtain ⟨hfirst, hlast⟩ := not_or.mp hbetween
      obtain ⟨i, hi, hfound, hrest⟩ := Image.functionAt_eq_last hsound hlist hcount
        (Address.not_lt.mp hfirst) (Address.not_le.mp hlast)
      rw [hfound, Outcome.mapError_ok]
      exact ⟨iff_of_false (by simp) hout, fun _ ↦ ⟨i, hi, rfl, hrest⟩⟩

/-- The sample image is clean. Its first function reaches up to the second one and the second one up
to the end, and no other address is in a function. -/
theorem lookups_of_clean_audit_sample :
    sample.audit = .ok { header := sampleHeader, checked := 2, issues := [] } ∧
      sample.resolve "f" = .ok ⟨0x1000⟩ ∧ sample.resolve "g" = .error (.notFound "g") ∧
      (∀ pc, sample.functionAt pc =
        .ok ((spansUpTo ⟨0x3000⟩ sampleSymbols).find? (·.range.contains pc))) ∧
      (∀ pc, sample.functionAt pc = .ok none ↔ pc < ⟨0x1000⟩ ∨ ⟨0x3000⟩ ≤ pc) ∧
      sample.functionAt ⟨0x1fff⟩ = .ok (some
        { symbol := { name := "f", address := ⟨0x1000⟩ },
          range := { start := ⟨0x1000⟩, stop := ⟨0x2000⟩ } }) ∧
      sample.functionAt ⟨0x2000⟩ = .ok (some
        { symbol := { name := "f", address := ⟨0x2000⟩ },
          range := { start := ⟨0x2000⟩, stop := ⟨0x3000⟩ } }) := by
  have haudit : sample.audit = .ok { header := sampleHeader, checked := 2, issues := [] } := by
    decide +kernel
  obtain ⟨t, symbols, stop, ht, hlist, hstop, -, hfunctionAt⟩ := lookups_of_clean_audit haudit rfl
  obtain rfl : Image.sampleImage = t := Except.ok.inj (Image.ofRegion_sample.symm.trans ht)
  obtain rfl : sampleSymbols = symbols :=
    (Prod.mk.inj (walk_sample.symm.trans hlist.walkAmong_eq)).1
  have hend : Image.sampleImage.endOfText = .ok ⟨0x3000⟩ := by decide +kernel
  obtain rfl : ⟨0x3000⟩ = stop := Outcome.ok.inj (hend.symm.trans hstop)
  refine ⟨haudit, by decide +kernel, by decide +kernel, fun pc ↦ (hfunctionAt pc).1, fun pc ↦ ?_,
    (hfunctionAt _).1, (hfunctionAt _).1⟩
  rw [(hfunctionAt pc).2.1]
  simp [sampleSymbols]

end Region

end FuncMeta
