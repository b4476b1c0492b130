import FuncMeta.Proofs.Symbol.CleanImage

/-!
# Names and addresses look each other up

A name is looked up by a scan from the first record on, an address by a search that halves the
table. In an image that an audit finds clean, and in which no function is empty, both end at the
same record: the entry of a name leads back to the function with that name, and the name of the
function at an address leads back to its start, unless a function in front of it has the same name.
Main statement: `lookups_inverse`.
-/

namespace FuncMeta

variable {symbols : List Symbol} {name : String} {address : Address}

/-- The entry of a name is that of the symbol with the name that no other one stands in front of. -/
theorem entryOf?_eq_some_iff :
    entryOf? symbols name = some address ↔
      ∃ i, ∃ hi : i < symbols.length, symbols[i] = { name, address } ∧
        ∀ j, ∀ hj : j < i, symbols[j].name ≠ name := by
  rw [entryOf?, Option.map_eq_some_iff]
  constructor
  · rintro ⟨s, hfind, rfl⟩
    obtain ⟨hname, i, hi, rfl, hbefore⟩ := List.find?_eq_some_iff_getElem.mp hfind
    obtain rfl := of_decide_eq_true hname
    refine ⟨i, hi, rfl, fun j hj ↦ ?_⟩
    simpa using hbefore j hj
  · rintro ⟨i, hi, hs, hbefore⟩
    refine ⟨symbols[i], List.find?_eq_some_iff_getElem.mpr ⟨?_, i, hi, rfl, fun j hj ↦ ?_⟩, ?_⟩
    · rw [hs, decide_eq_true_eq]
    · simpa using hbefore j hj
    · rw [hs]

private theorem answer_none_eq_ok_iff :
    answer symbols none name = .ok address ↔ entryOf? symbols name = some address := by
  unfold answer
  cases entryOf? symbols name <;> simp

namespace Image

variable {t : Image} {records : List Record} {pc stop : Address} {span : Span}

/-- The records that are read are those that the region shows. -/
theorem getElem?_of_allRecords (hw : IsWordSize t.header.pointerSize)
    (hread : t.allRecords = .ok records) {i : Nat} (hi : i < t.count) :
    records[i]? = some (t.recordAt i) := by
  obtain ⟨-, rfl⟩ := (records_eq_ok_iff hw).mp (allRecords_eq_ok_iff.mp hread)
  rw [List.getElem?_map, List.getElem?_range hi, Option.map_some]

/-- Entries that rise strictly, also to the end of the last function, leave no function empty. -/
theorem entryAt_lt_succ (hw : IsWordSize t.header.pointerSize) (hfits : t.HasRecord t.count)
    (hread : t.allRecords = .ok records) (hend : t.endOfText = .ok stop)
    (hstrict : (records.map Record.entry).Pairwise (· < ·))
    (hlast : ∀ last, records.getLast? = some last → last.entry < stop) {i : Nat}
    (hi : i < t.count) : t.entryAt i < t.entryAt (i + 1) := by
  rw [endOfText_of_hasRecord hw hfits] at hend
  cases hend
  have hget := getElem?_of_allRecords hw hread hi
  obtain ⟨-, rfl⟩ := (records_eq_ok_iff hw).mp (allRecords_eq_ok_iff.mp hread)
  by_cases hnext : i + 1 < t.count
  · have hpair := List.pairwise_iff_getElem.mp hstrict i (i + 1) (by simpa using hi)
      (by simpa using hnext) (Nat.lt_succ_self i)
    simpa [entryAt] using hpair
  · have hcount : i + 1 = t.count := by omega
    rw [hcount]
    apply hlast
    rwa [List.getLast?_eq_getElem?, List.length_map, List.length_range, ← hcount,
      Nat.add_sub_cancel, hcount]

variable (h : t.IsSound) (hlist : t.Listing t.count 0 symbols none)

include h hlist

/-- An address between two neighbouring entries lies in the function of the first one. -/
theorem functionAt_of_between {i : Nat} (hi : i < symbols.length) (hle : t.entryAt i ≤ pc)
    (hlt : pc < t.entryAt (i + 1)) :
    t.functionAt pc = .ok (some
      { symbol := symbols[i],
        range := { start := t.entryAt i, stop := t.entryAt (i + 1) } }) := by
  have hcount : i < t.count := by rwa [hlist.length_eq] at hi
  have hfirst := Address.le_trans (h.entryAt_le 0 i (Nat.zero_le _) (Nat.le_of_lt hcount)) hle
  have hlast : pc < t.entryAt t.count := by
    apply Address.not_le.mp
    intro habove
    exact Address.not_le.mpr hlt
      (Address.le_trans (h.entryAt_le (i + 1) t.count hcount (Nat.le_refl _)) habove)
  obtain ⟨j, hj, hlej, hltj, hfound⟩ :=
    functionAt_eq_some h hlist (Nat.ne_zero_of_lt hcount) hfirst hlast
  have hjSymbols : j < symbols.length := by rwa [length_spansUpTo] at hj
  have hjCount : j < t.count := by rwa [hlist.length_eq] at hjSymbols
  obtain rfl := eq_of_between h hjCount hcount ⟨hlej, hltj⟩ ⟨hle, hlt⟩
  rw [hfound, getElem_spansUpTo h hlist j hjSymbols hj]

/-- What is found at an address is a function with the code up to the next entry. -/
theorem exists_of_functionAt (hfound : t.functionAt pc = .ok (some span)) :
    ∃ i, ∃ hi : i < symbols.length, span =
      { symbol := symbols[i],
        range := { start := t.entryAt i, stop := t.entryAt (i + 1) } } := by
  by_cases hout : t.count = 0 ∨ pc < t.entryAt 0 ∨ t.entryAt t.count ≤ pc
  · rw [functionAt_eq_none h hout] at hfound
    cases hfound
  · obtain ⟨hcount, hbetween⟩ := not_or.mp hout
    obtain ⟨hfirst, hlast⟩ := not_or.mp hbetween
    obtain ⟨i, hi, -, -, hsome⟩ := functionAt_eq_some h hlist hcount
      (Address.not_lt.mp hfirst) (Address.not_le.mp hlast)
    have hiSymbols : i < symbols.length := by rwa [length_spansUpTo] at hi
    rw [hfound, getElem_spansUpTo h hlist i hiSymbols hi] at hsome
    cases hsome
    exact ⟨i, hiSymbols, rfl⟩

/-- The address of a name is found in the function with that name, and starts it. -/
theorem functionAt_of_resolve (hrising : ∀ i, i < t.count → t.entryAt i < t.entryAt (i + 1))
    (hresolve : t.resolve name = .ok address) :
    ∃ span, t.functionAt address = .ok (some span) ∧
      span.symbol = { name, address } ∧ span.range.start = address := by
  rw [resolve_eq hlist, answer_none_eq_ok_iff, entryOf?_eq_some_iff] at hresolve
  obtain ⟨i, hi, hs, -⟩ := hresolve
  have hentry : t.entryAt i = address := by rw [← address_getElem h hlist i hi, hs]
  have hlt := hrising i (by rwa [hlist.length_eq] at hi)
  refine ⟨_, functionAt_of_between h hlist hi (hentry ▸ Address.le_refl _) (hentry ▸ hlt), hs, ?_⟩
  exact hentry

private theorem name_recordAt (i : Nat) (hi : i < symbols.length) :
    t.name (t.recordAt i).metadataOffset = .ok symbols[i].name :=
  (symbol_eq_ok_iff.mp (symbol_recordAt h hlist i hi)).1

omit hlist in
/-- Where no function is empty, a later record has a higher entry. -/
theorem entryAt_lt_of_lt (hrising : ∀ i, i < t.count → t.entryAt i < t.entryAt (i + 1)) {i j : Nat}
    (hlt : i < j) (hj : j < t.count) : t.entryAt i < t.entryAt j := by
  have hle := h.entryAt_le (i + 1) j hlt (Nat.le_of_lt hj)
  apply Address.not_le.mp
  intro hge
  exact Address.not_le.mpr (hrising i (Nat.lt_trans hlt hj)) (Address.le_trans hle hge)

/-- The name of a function leads to the first function with that name, which is not above it. -/
theorem resolve_of_functionAt (hrising : ∀ i, i < t.count → t.entryAt i < t.entryAt (i + 1))
    (hread : t.allRecords = .ok records) (hfound : t.functionAt pc = .ok (some span)) :
    ∃ address index, t.resolve span.symbol.name = .ok address ∧ address ≤ span.range.start ∧
      records[index]? = some (t.recordAt index) ∧ t.entryAt index = span.range.start ∧
      (address = span.range.start ↔ ∀ i, i < index → ∀ record, records[i]? = some record →
        t.name record.metadataOffset ≠ .ok span.symbol.name) := by
  obtain ⟨index, hindex, rfl⟩ := exists_of_functionAt h hlist hfound
  have hcount : index < t.count := by rwa [hlist.length_eq] at hindex
  have hget (i : Nat) (hi : i < t.count) : records[i]? = some (t.recordAt i) :=
    getElem?_of_allRecords h.isWordSize hread hi
  have hsome : (entryOf? symbols symbols[index].name).isSome :=
    isSome_entryOf?_iff.mpr (List.mem_map_of_mem (List.getElem_mem hindex))
  obtain ⟨address, hentry⟩ := Option.isSome_iff_exists.mp hsome
  obtain ⟨first, hfirst, hs, hbefore⟩ := entryOf?_eq_some_iff.mp hentry
  have haddress : t.entryAt first = address := by
    rw [← address_getElem h hlist first hfirst, hs]
  have hle : first ≤ index := by
    apply Nat.le_of_not_lt
    intro hlt
    exact hbefore index hlt rfl
  refine ⟨address, index, ?_, ?_, hget index hcount, rfl, ?_⟩
  · rw [resolve_eq hlist, answer_none_eq_ok_iff, hentry]
  · rw [← haddress]
    exact h.entryAt_le first index hle (Nat.le_of_lt hcount)
  rcases Nat.lt_or_eq_of_le hle with hlt | rfl
  · -- An earlier function has the name: its entry is lower, and its record is a counterexample.
    have hlower := entryAt_lt_of_lt h hrising hlt hcount
    rw [haddress] at hlower
    apply iff_of_false
    · intro heq
      exact Address.not_le.mpr hlower (heq ▸ Address.le_refl _)
    · intro hnone
      apply hnone first hlt _ (hget first (Nat.lt_trans hlt hcount))
      rw [name_recordAt h hlist first hfirst, hs]
  · apply iff_of_true haddress.symm
    intro i hi record hrecord
    rw [hget i (Nat.lt_trans hi hcount)] at hrecord
    cases hrecord
    rw [name_recordAt h hlist i (Nat.lt_trans hi hindex)]
    intro hok
    exact hbefore i hi (Outcome.ok.inj hok)

end Image

namespace Region

variable {r : Region} {a : Audit} {t : Image} {records : List Record} {stop : Address}

/-- In an image that an audit finds clean, whose entries rise strictly up to the end of the last
function, names and addresses look each other up. An address that a name resolves to lies in the
function with that name and starts it. The name of a function that is found at an address resolves
to an address that is not above the function, and to the start of the function exactly when no
record in front of its own carries the name. -/
theorem lookups_inverse (h : r.audit = .ok a) (hclean : a.isClean = true)
    (ht : Image.ofRegion r = .ok t) (hread : t.allRecords = .ok records)
    (hend : t.endOfText = .ok stop) (hstrict : (records.map Record.entry).Pairwise (· < ·))
    (hlast : ∀ last, records.getLast? = some last → last.entry < stop) :
    (∀ name address, r.resolve name = .ok address →
      ∃ span, r.functionAt address = .ok (some span) ∧
        span.symbol = { name, address } ∧ span.range.start = address) ∧
    ∀ pc span, r.functionAt pc = .ok (some span) →
      ∃ (address : Address) (index : Nat) (record : Record),
        r.resolve span.symbol.name = .ok address ∧ address ≤ span.range.start ∧
        records[index]? = some record ∧ record.entry = span.range.start ∧
        (address = span.range.start ↔ ∀ i, i < index → ∀ earlier, records[i]? = some earlier →
          t.name earlier.metadataOffset ≠ .ok span.symbol.name) := by
  rw [audit_of_ofRegion ht] at h
  obtain ⟨hsound, -⟩ := Image.isSound_of_audit (Image.isWordSize_of_ofRegion ht) h hclean
  obtain ⟨symbols, hlist⟩ := hsound.exists_listing
  have hrising (i : Nat) (hi : i < t.count) : t.entryAt i < t.entryAt (i + 1) :=
    Image.entryAt_lt_succ hsound.isWordSize hsound.hasRecord hread hend hstrict hlast hi
  have hresolve (name : String) : r.resolve name = t.resolve name := by rw [resolve, ask_of_ok ht]
  have hfunctionAt {pc : Address} {span : Span} :
      r.functionAt pc = .ok (some span) ↔ t.functionAt pc = .ok (some span) := by
    rw [functionAt, ask_of_ok ht]
    cases t.functionAt pc <;> simp [Outcome.mapError]
  constructor
  · intro name address hname
    rw [hresolve] at hname
    obtain ⟨span, hfound, hspan⟩ := Image.functionAt_of_resolve hsound hlist hrising hname
    exact ⟨span, hfunctionAt.mpr hfound, hspan⟩
  · intro pc span hfound
    obtain ⟨address, index, hname, hrest⟩ := Image.resolve_of_functionAt hsound hlist hrising hread
      (hfunctionAt.mp hfound)
    exact ⟨address, index, t.recordAt index, by rw [hresolve, hname], hrest⟩

/-- In the sample image the name of the second function leads to the first one, and so does not
lead back to it. -/
theorem lookups_inverse_sample :
    ∃ a, sample.audit = .ok a ∧ a.isClean = true ∧
      (∀ name address, sample.resolve name = .ok address →
        ∃ span, sample.functionAt address = .ok (some span) ∧
          span.symbol = { name, address } ∧ span.range.start = address) ∧
      ∃ span, sample.functionAt ⟨0x2abc⟩ = .ok (some span) ∧
        ∃ address, sample.resolve span.symbol.name = .ok address ∧
          address ≤ span.range.start ∧ address ≠ span.range.start := by
  let first : Record := { entry := ⟨0x1000⟩, metadataOffset := 24 }
  let second : Record := { entry := ⟨0x2000⟩, metadataOffset := 64 }
  have haudit : sample.audit = .ok { header := sampleHeader, checked := 2, issues := [] } := by
    decide +kernel
  have hread : Image.sampleImage.allRecords = .ok [first, second] := by decide +kernel
  have hend : Image.sampleImage.endOfText = .ok ⟨0x3000⟩ := by decide +kernel
  have hfound : sample.functionAt ⟨0x2abc⟩ = .ok (some
      { symbol := { name := "f", address := ⟨0x2000⟩ },
        range := { start := ⟨0x2000⟩, stop := ⟨0x3000⟩ } }) := by
    decide +kernel
  obtain ⟨htoAddress, htoName⟩ :=
    lookups_inverse haudit rfl Image.ofRegion_sample hread hend (by decide) (by decide)
  obtain ⟨address, index, record, hresolve, hle, hrecord, hentry, hiff⟩ := htoName _ _ hfound
  refine ⟨_, haudit, rfl, htoAddress, _, hfound, address, hresolve, hle, fun heq ↦ ?_⟩
  match index with
  | 0 =>
    cases hrecord
    exact absurd hentry (by decide)
  | 1 => exact hiff.mp heq 0 (by decide) first rfl (by decide +kernel)
  | _ + 2 => cases hrecord

end Region

end FuncMeta
