import FuncMeta.Proofs.Image.Hostile
import FuncMeta.Proofs.Symbol.Agreement

/-!
# Lookups without halting, and tables that hold fewer records than they count

Resolving a name and looking an address up stay within the words of the machine on any region
whatsoever. Listing and indexing first make room for as many symbols as the header counts, and halt
for want of it and for nothing else: `resolve_ne_halt`, `functionAt_ne_halt`, `symbols_ne_halt` and
`index_ne_halt`.

The header counts the functions, and nothing compares that count with the bytes that are there. If
all records that are there have names, a search for any other name reports where the table ends.
Listing and indexing report the same, but only if room can be made for as many symbols as the header
counts: that is asked for before the first record is read, and the machine halts if there is none.
Main statement: `lookups_of_shortage`.
-/

namespace FuncMeta

/-- Looking an address up in an image does not halt. -/
theorem Image.functionAt_ne_halt (t : Image) (pc : Address) : t.functionAt pc ≠ .halt := by
  refine Outcome.bind_ne_halt (find?_ne_halt t pc) ?_
  intro found _
  cases found with
  | none => exact Outcome.ok_ne_halt _
  | some slot => exact Outcome.bind_ne_halt (symbol_ne_halt _ _) fun _ _ ↦ Outcome.ok_ne_halt _

namespace Region

variable {r : Region} {t : Image}

private theorem ask_ne_halt {α : Type} {query : Image → Outcome SymbolError α}
    (h : ∀ t, Image.ofRegion r = .ok t → query t ≠ .halt) : r.ask query ≠ .halt := by
  rw [ask]
  cases ht : Image.ofRegion r with
  | ok t => exact h t ht
  | error e => exact Outcome.error_ne_halt _

/-- Resolving a name does not halt. -/
theorem resolve_ne_halt (r : Region) (name : String) : r.resolve name ≠ .halt := by
  apply ask_ne_halt
  intro t _
  obtain ⟨symbols, failure?, hlist⟩ := Image.exists_listing t t.count 0
  rw [Image.resolve_eq hlist]
  exact answer_ne_halt _ _ _

/-- Looking an address up does not halt. -/
theorem functionAt_ne_halt (r : Region) (pc : Address) : r.functionAt pc ≠ .halt :=
  ask_ne_halt fun t _ ↦ Outcome.mapError_ne_halt (t.functionAt_ne_halt pc)

/-- Listing the symbols does not halt if there is room for as many as the header counts. -/
theorem symbols_ne_halt (ht : Image.ofRegion r = .ok t)
    (hroom : t.count * Image.symbolSize < Word.half) : r.symbols ≠ .halt := by
  obtain ⟨symbols, failure?, hlist⟩ := Image.exists_listing t t.count 0
  rw [Region.symbols, ask_of_ok ht, Image.symbols_eq hlist, Word.reserve, if_pos hroom]
  exact Outcome.mapError_ne_halt (endedBy_ne_halt _ _)

/-- Indexing the symbols does not halt if there is room for as many as the header counts. -/
theorem index_ne_halt (ht : Image.ofRegion r = .ok t) (hroom : t.count ≤ SymbolIndex.maxReserved) :
    r.index ≠ .halt := by
  obtain ⟨symbols, failure?, hlist⟩ := Image.exists_listing t t.count 0
  rw [Region.index, ask_of_ok ht, Image.index_eq hlist, SymbolIndex.reserve, if_pos hroom]
  exact Outcome.mapError_ne_halt (endedBy_ne_halt _ _)

end Region

namespace Image

variable {t : Image} {index : Nat}

variable (hw : IsWordSize t.header.pointerSize)

include hw

/-- A record that is there and has a name is decoded. -/
theorem exists_symbolAt_eq_ok {name : String} (hlt : index < t.wholeRecords)
    (hname : t.name (t.recordAt index).metadataOffset = .ok name) :
    ∃ s, t.symbolAt index = .ok s ∧ s.name = name := by
  refine ⟨{ name, address := (t.recordAt index).entry }, ?_, rfl⟩
  rw [symbolAt, record_of_hasRecord hw ((hasRecord_iff_lt_wholeRecords hw).mpr hlt),
    Outcome.ok_bind]
  exact symbol_eq_ok_iff.mpr ⟨hname, rfl⟩

private theorem symbolAt_of_wholeRecords_le (hle : t.wholeRecords ≤ index) :
    t.symbolAt index = .error (.truncatedTable index t.count) := by
  have hnot : ¬ t.HasRecord index := by
    rw [hasRecord_iff_lt_wholeRecords hw]
    exact Nat.not_lt.mpr hle
  rw [symbolAt, record_of_not_hasRecord hnot]
  rfl

/-- A table that holds fewer records than it counts, all of them with names, lists those records and
then says that it is truncated behind them. -/
theorem exists_listing_of_shortage (hshort : t.wholeRecords < t.count)
    (hnames : ∀ i < t.wholeRecords, ∃ name, t.name (t.recordAt i).metadataOffset = .ok name) :
    ∃ symbols, symbols.length = t.wholeRecords ∧
      t.Listing t.count 0 symbols (some (.truncatedTable t.wholeRecords t.count)) := by
  obtain ⟨symbols, failure?, hlist⟩ := exists_listing t t.count 0
  have hmissing := symbolAt_of_wholeRecords_le hw (Nat.le_refl _)
  have hle : symbols.length ≤ t.wholeRecords := by
    apply Nat.le_of_not_lt
    intro hlt
    have hs := hlist.symbolAt_add _ hlt
    rw [Nat.zero_add, hmissing] at hs
    cases hs
  cases failure? with
  | none =>
    rw [hlist.length_eq] at hle
    omega
  | some e =>
    obtain ⟨-, hfailed⟩ := hlist.symbolAt_length
    rw [Nat.zero_add] at hfailed
    have hge : t.wholeRecords ≤ symbols.length := by
      apply Nat.le_of_not_lt
      intro hlt
      obtain ⟨name, hname⟩ := hnames _ hlt
      obtain ⟨s, hs, -⟩ := exists_symbolAt_eq_ok hw hlt hname
      rw [hs] at hfailed
      cases hfailed
    have hlength : symbols.length = t.wholeRecords := Nat.le_antisymm hle hge
    rw [hlength, hmissing] at hfailed
    cases hfailed
    exact ⟨symbols, hlength, hlist⟩

end Image

namespace Region

variable {r : Region} {t : Image}

/-- In an image that counts more functions than records are there, all of them with names, a name
that none of them carries is not resolved because the table is truncated behind them. Listing and
indexing fail in the same way if room can be made for as many symbols as the header counts; the
machine halts otherwise. -/
theorem lookups_of_shortage (h : Image.ofRegion r = .ok t) (hshort : t.wholeRecords < t.count)
    (hnames : ∀ i < t.wholeRecords, ∃ name, t.name (t.recordAt i).metadataOffset = .ok name) :
    (∀ name, (∀ i < t.wholeRecords, t.name (t.recordAt i).metadataOffset ≠ .ok name) →
        r.resolve name = .error (.layout (.truncatedTable t.wholeRecords t.count))) ∧
      (r.symbols =
        if t.count * Image.symbolSize < Word.half then
          .error (.layout (.truncatedTable t.wholeRecords t.count))
        else .halt) ∧
      r.index =
        if t.count ≤ SymbolIndex.maxReserved then
          .error (.layout (.truncatedTable t.wholeRecords t.count))
        else .halt := by
  have hw := Image.isWordSize_of_ofRegion h
  obtain ⟨symbols, hlength, hlist⟩ := Image.exists_listing_of_shortage hw hshort hnames
  refine ⟨?_, ?_, ?_⟩
  · intro name hother
    have hnone : entryOf? symbols name = none := by
      apply Option.not_isSome_iff_eq_none.mp
      rw [isSome_entryOf?_iff]
      intro hmem
      obtain ⟨s, hs, rfl⟩ := List.mem_map.mp hmem
      obtain ⟨i, hi, rfl⟩ := List.mem_iff_getElem.mp hs
      have hlt : i < t.wholeRecords := by rwa [← hlength]
      obtain ⟨name, hname⟩ := hnames i hlt
      obtain ⟨s, hs, rfl⟩ := Image.exists_symbolAt_eq_ok hw hlt hname
      have hlisted := hlist.symbolAt_add i hi
      rw [Nat.zero_add, hs] at hlisted
      cases hlisted
      exact hother i hlt hname
    rw [resolve, ask_of_ok h, Image.resolve_eq hlist]
    unfold answer
    rw [hnone]
  · rw [Region.symbols, ask_of_ok h, Image.symbols_eq hlist, Word.reserve]
    split
    · rfl
    · rfl
  · rw [Region.index, ask_of_ok h, Image.index_eq hlist, SymbolIndex.reserve]
    split
    · rfl
    · rfl

/-- An image that ends within the record behind its first function, which has the name `f`. The
header counts as many functions as it is told. -/
def shortTable (count : UInt64) : Region where
  bytes :=
    ⟨([0xfa, 0xff, 0xff, 0xff, 0, 0, 1, 8] ++
      [count.toNat, 0, 64, 66, 66, 66, 72].flatMap (LittleEndian.encode 8) ++
      [0x66, 0, 0, 0, 0, 0, 0, 0] ++ [0x1000, 16, 0x2000].flatMap (LittleEndian.encode 8) ++
      [0, 0, 0, 0]).toArray⟩
  size_lt := by
    have hsize : 100 < Word.half := by decide
    simpa [ByteArray.size, LittleEndian.length_encode] using hsize

/-- The header of that image. -/
def shortHeader (count : UInt64) : Header where
  magic := 0xfffffffa
  minInstructionSize := 1
  pointerSize := 8
  functionCount := count
  fileCount := 0
  nameTableOffset := 64
  cuTableOffset := 66
  fileTableOffset := 66
  pcTableOffset := 66
  functionTableOffset := 72

/-- That image, read under that header. -/
def shortImage (count : UInt64) : Image where
  region := shortTable count
  header := shortHeader count

set_option maxRecDepth 20000 in
/-- If it counts a thousand, all three lookups report that the second of them is missing. -/
theorem lookups_of_shortage_thousand :
    Image.ofRegion (shortTable 1000) = .ok (shortImage 1000) ∧
      (shortImage 1000).wholeRecords < (shortImage 1000).count ∧
      (shortTable 1000).resolve "g" = .error (.layout (.truncatedTable 1 1000)) ∧
      (shortTable 1000).symbols = .error (.layout (.truncatedTable 1 1000)) ∧
      (shortTable 1000).index = .error (.layout (.truncatedTable 1 1000)) := by
  have himage : Image.ofRegion (shortTable 1000) = .ok (shortImage 1000) :=
    Image.ofRegion_eq_ok_iff.mpr ⟨rfl, by rfl⟩
  have hshort : (shortImage 1000).wholeRecords < (shortImage 1000).count := by decide +kernel
  have hname : ∀ i < (shortImage 1000).wholeRecords,
      (shortImage 1000).name ((shortImage 1000).recordAt i).metadataOffset = .ok "f" := by
    decide +kernel
  obtain ⟨hresolve, hsymbols, hindex⟩ :=
    lookups_of_shortage himage hshort fun i hi ↦ ⟨"f", hname i hi⟩
  refine ⟨himage, hshort, hresolve "g" ?_, hsymbols, hindex⟩
  intro i hi
  rw [hname i hi]
  decide

/-- The largest number of functions that a header can count. -/
def vastCount : UInt64 := 0x7fffffffffffffff

set_option maxRecDepth 20000 in
/-- If it counts as many as a signed word can, a search still reports that, but the machine halts
when it lists or indexes the functions. -/
theorem halt_of_vast_count :
    Image.ofRegion (shortTable vastCount) = .ok (shortImage vastCount) ∧
      (shortImage vastCount).wholeRecords < (shortImage vastCount).count ∧
      (∀ i < (shortImage vastCount).wholeRecords,
        (shortImage vastCount).name ((shortImage vastCount).recordAt i).metadataOffset = .ok "f") ∧
      (shortTable vastCount).resolve "g" = .error (.layout (.truncatedTable 1 vastCount.toNat)) ∧
      (shortTable vastCount).symbols = .halt ∧
      (shortTable vastCount).index = .halt := by
  have himage : Image.ofRegion (shortTable vastCount) = .ok (shortImage vastCount) :=
    Image.ofRegion_eq_ok_iff.mpr ⟨rfl, by rfl⟩
  refine ⟨himage, by decide +kernel, by decide +kernel, by decide +kernel, ?_, ?_⟩
  · rw [Region.symbols, ask_of_ok himage]
    rfl
  · rw [Region.index, ask_of_ok himage]
    rfl

end Region

end FuncMeta
