import FuncMeta.Proofs.Manifest.Verdict
import FuncMeta.Proofs.Symbol.Resemblance
import FuncMeta.Proofs.Symbol.Shortage

/-!
# Images of one manifest in two sizes of words

The size of words decides where the header ends, how far apart records and descriptors stand and
where every table starts. Nothing of this shows in an answer: the two images have the same entries
in the same order, and each descriptor leads to the same name or to the same failure. Main
statement: `answers_of_pointerSize`.
-/

namespace FuncMeta.Manifest

variable {m : Manifest} {stop i : Nat} {r s : Region}

/-- The same contents in words of another size. -/
def withPointerSize (m : Manifest) (width : UInt8) : Manifest := { m with pointerSize := width }

/-- What an image says about a name that it holds. An offset that is negative as a signed word leads
nowhere. -/
def readName (m : Manifest) (name : String) : Outcome LayoutError String :=
  if m.nameOffset name < 0x80000000 then .ok (beforeNull name)
  else .error (.invalidNameOffset (.ofNat (m.nameOffset name)) m.nameBytes.length)

private theorem readName_withPointerSize (m : Manifest) (width : UInt8) (name : String) :
    (m.withPointerSize width).readName name = m.readName name := by
  rw [readName, readName]
  rfl

namespace IsHeldBy

private theorem nameTableSize_eq (h : m.IsHeldBy stop r) :
    (m.imageOn r).nameTableSize = m.nameBytes.length := by
  have htable : (m.imageOn r).header.nameTableOffset.toNat = m.nameTableOffset := h.offsets_eq.1
  rw [Image.nameTableSize, htable, h.nameTableEnd_eq, cuTableOffset, Nat.add_sub_cancel_left]

/-- Words of four bytes leave a name table that their offsets can count. -/
theorem nameBytes_lt (h : m.IsHeldBy stop r) (hw : m.pointerSize = 4) :
    m.nameBytes.length < 0x100000000 := by
  have hroom := h.allHaveRoom.header m.cuTableOffset (by simp [headerWords]) hw
  rw [cuTableOffset] at hroom
  omega

/-- The descriptor of a function has no defect. -/
theorem descriptorIssues_recordAt (h : m.IsHeldBy stop r) (hi : i < m.functions.length) :
    (m.imageOn r).descriptorIssues i ((m.imageOn r).recordAt i) = .ok [] := by
  apply Image.descriptorIssues_eq_nil_iff.mpr
  rw [h.recordAt_eq hi]
  exact ⟨_, h.descriptor_eq hi, rfl⟩

/-- The record of a function leads to its name as far as that can be read. -/
theorem name_recordAt (h : m.IsHeldBy stop r) (hi : i < m.functions.length)
    (hnames : m.nameBytes.length < 0x100000000) :
    (m.imageOn r).name ((m.imageOn r).recordAt i).metadataOffset =
      m.readName m.functions[i].1 := by
  rw [h.recordAt_eq hi, readName]
  by_cases hlt : m.nameOffset m.functions[i].1 < 0x80000000
  · rw [if_pos hlt]
    exact h.name_eq_beforeNull_of_lt hi hlt
  · have hle := (window_nameBytes (mem_names hi)).1
    have hnegative : (Int32.ofNat (m.nameOffset m.functions[i].1)).toInt < 0 := by
      rw [Int32.toInt_ofNat', Int.bmod_def, show Int32.size = 0x100000000 from rfl]
      omega
    rw [if_neg hlt, Image.name, h.nameOffset_eq hi (by omega), Outcome.ok_bind, Image.nameAt,
      if_neg (by omega), h.nameTableSize_eq]

end IsHeldBy

/-- The images of one manifest in words of any two sizes show the same functions. -/
theorem resembles {w w' : UInt8} (h : (m.withPointerSize w).IsHeldBy stop r)
    (h' : (m.withPointerSize w').IsHeldBy stop s) (hnames : m.nameBytes.length < 0x100000000) :
    ((m.withPointerSize w).imageOn r).Resembles ((m.withPointerSize w').imageOn s) where
  isWordSize_left := h.isWordSize
  isWordSize_right := h'.isWordSize
  hasRecord_left := h.hasRecord (Nat.le_of_eq h.count_eq)
  hasRecord_right := h'.hasRecord (Nat.le_of_eq h.count_eq)
  count_eq := h.count_eq.trans h'.count_eq.symm
  entryAt_eq := by
    intro i hi
    rw [h.count_eq] at hi
    rcases Nat.lt_or_eq_of_le hi with hlt | rfl
    · rw [Image.entryAt, h.recordAt_eq hlt, Image.entryAt, h'.recordAt_eq hlt]
      rfl
    · exact h.entryAt_length.trans h'.entryAt_length.symm
  descriptorIssues_eq := by
    intro i hi
    rw [h.count_eq] at hi
    rw [h.descriptorIssues_recordAt hi, h'.descriptorIssues_recordAt hi]
  name_eq := by
    intro i hi
    rw [h.count_eq] at hi
    rw [h.name_recordAt hi hnames, h'.name_recordAt hi hnames, readName_withPointerSize,
      readName_withPointerSize]
    rfl

/-- If what a manifest says can be built in words of four and in words of eight bytes, then the two
images answer every question alike, whatever the order of the entries: the list of symbols, the
entry of each name, the index of all names, the function at each address, and the number of records
checked and the defects found by an audit. No answer is that the machine halts. -/
theorem answers_of_pointerSize {narrow wide : List UInt8}
    (hnarrow : (m.withPointerSize 4).encode = .ok narrow)
    (hwide : (m.withPointerSize 8).encode = .ok wide)
    (hr : r.toList = narrow) (hs : s.toList = wide) :
    (r.symbols = s.symbols ∧ r.symbols ≠ .halt) ∧
      (∀ name, r.resolve name = s.resolve name ∧ r.resolve name ≠ .halt) ∧
      (r.index = s.index ∧ r.index ≠ .halt) ∧
      (∀ pc, r.functionAt pc = s.functionAt pc ∧ r.functionAt pc ≠ .halt) ∧
      ∃ a b, r.audit = .ok a ∧ s.audit = .ok b ∧ a.checked = b.checked ∧ a.issues = b.issues := by
  obtain ⟨stop, hstop, hheld⟩ := exists_isHeldBy hnarrow hr
  obtain ⟨stop', hstop', hheld'⟩ := exists_isHeldBy hwide hs
  obtain rfl : stop = stop' := Outcome.ok.inj (hstop.symm.trans hstop')
  have h := resembles hheld hheld' (hheld.nameBytes_lt rfl)
  -- The number of functions is a signed word of four bytes, so there is room for list and index.
  have hcount : ((m.withPointerSize 4).imageOn r).count < 0x80000000 := by
    have hhalf : LittleEndian.limit (4 : UInt8).toNat / 2 = 0x80000000 := by decide
    have hlt := hheld.count_lt
    rw [hheld.count_eq, ← hhalf]
    exact hlt
  have hsymbolRoom :
      ((m.withPointerSize 4).imageOn r).count * Image.symbolSize < Word.half := by
    rw [Image.symbolSize, Word.half]
    omega
  have hindexRoom : ((m.withPointerSize 4).imageOn r).count ≤ SymbolIndex.maxReserved := by
    rw [SymbolIndex.maxReserved]
    omega
  have ht := hheld.ofRegion_eq
  have hu := hheld'.ofRegion_eq
  exact ⟨⟨Region.symbols_eq_of_resembles ht hu h, Region.symbols_ne_halt ht hsymbolRoom⟩,
    fun name ↦ ⟨Region.resolve_eq_of_resembles ht hu h name, Region.resolve_ne_halt r name⟩,
    ⟨Region.index_eq_of_resembles ht hu h, Region.index_ne_halt ht hindexRoom⟩,
    fun pc ↦ ⟨Region.functionAt_eq_of_resembles ht hu h pc, Region.functionAt_ne_halt r pc⟩,
    Region.audit_of_resembles ht hu h⟩

/-- A manifest whose entries are in no order. -/
def unorderedManifest : Manifest where
  pointerSize := 4
  functions := [("g", 0x2000), ("f", 0x1000)]
  textEnd := some 0x3000

/-- Its image in words of four bytes. -/
def narrowBytes : List UInt8 :=
  [0xfa, 0xff, 0xff, 0xff, 0, 0, 1, 4] ++
    [2, 0, 36, 40, 40, 40, 44].flatMap (LittleEndian.encode 4) ++ [0x67, 0, 0x66, 0, 0, 0, 0, 0] ++
    [0x2000, 24, 0x1000, 64, 0x3000, 0].flatMap (LittleEndian.encode 4) ++
    LittleEndian.encode 4 0x2000 ++ List.replicate 36 0 ++
    LittleEndian.encode 4 0x1000 ++ LittleEndian.encode 4 2 ++ List.replicate 32 0

/-- Its image in words of eight bytes. -/
def wideBytes : List UInt8 :=
  [0xfa, 0xff, 0xff, 0xff, 0, 0, 1, 8] ++
    [2, 0, 64, 68, 68, 68, 72].flatMap (LittleEndian.encode 8) ++ [0x67, 0, 0x66, 0, 0, 0, 0, 0] ++
    [0x2000, 48, 0x1000, 96, 0x3000, 0].flatMap (LittleEndian.encode 8) ++
    LittleEndian.encode 8 0x2000 ++ List.replicate 40 0 ++
    LittleEndian.encode 8 0x1000 ++ LittleEndian.encode 4 2 ++ List.replicate 36 0

set_option maxRecDepth 20000 in
/-- The region of the image in words of four bytes. -/
def narrowRegion : Region where
  bytes := ⟨narrowBytes.toArray⟩
  size_lt := by decide

set_option maxRecDepth 20000 in
/-- The region of the image in words of eight bytes. -/
def wideRegion : Region where
  bytes := ⟨wideBytes.toArray⟩
  size_lt := by decide

set_option maxRecDepth 20000 in
/-- The two images of that manifest answer alike. The search goes by the order of the records: below
the entry of the first one it finds nothing, and from there on the second one, which is reported to
start in front of the first one. -/
theorem answers_of_pointerSize_unordered :
    (unorderedManifest.withPointerSize 4).encode = .ok narrowBytes ∧
      (unorderedManifest.withPointerSize 8).encode = .ok wideBytes ∧
      narrowRegion.symbols =
        .ok [{ name := "g", address := ⟨0x2000⟩ }, { name := "f", address := ⟨0x1000⟩ }] ∧
      wideRegion.symbols =
        .ok [{ name := "g", address := ⟨0x2000⟩ }, { name := "f", address := ⟨0x1000⟩ }] ∧
      narrowRegion.resolve "f" = .ok ⟨0x1000⟩ ∧ wideRegion.resolve "f" = .ok ⟨0x1000⟩ ∧
      narrowRegion.functionAt ⟨0x1fff⟩ = .ok none ∧ wideRegion.functionAt ⟨0x1fff⟩ = .ok none ∧
      narrowRegion.functionAt ⟨0x2000⟩ = .ok (some
        { symbol := { name := "f", address := ⟨0x1000⟩ },
          range := { start := ⟨0x1000⟩, stop := ⟨0x3000⟩ } }) ∧
      wideRegion.functionAt ⟨0x2000⟩ = .ok (some
        { symbol := { name := "f", address := ⟨0x1000⟩ },
          range := { start := ⟨0x1000⟩, stop := ⟨0x3000⟩ } }) ∧
      (fun a ↦ (a.checked, a.issues)) <$> narrowRegion.audit =
        .ok (2, [.unordered 1 ⟨0x2000⟩ ⟨0x1000⟩]) ∧
      (fun a ↦ (a.checked, a.issues)) <$> wideRegion.audit =
        .ok (2, [.unordered 1 ⟨0x2000⟩ ⟨0x1000⟩]) := by
  have hnarrow : (unorderedManifest.withPointerSize 4).encode = .ok narrowBytes := by rfl
  have hwide : (unorderedManifest.withPointerSize 8).encode = .ok wideBytes := by rfl
  have hlisted : narrowRegion.symbols =
      .ok [{ name := "g", address := ⟨0x2000⟩ }, { name := "f", address := ⟨0x1000⟩ }] := by
    decide +kernel
  have hf : narrowRegion.resolve "f" = .ok ⟨0x1000⟩ := by decide +kernel
  have hbelow : narrowRegion.functionAt ⟨0x1fff⟩ = .ok none := by decide +kernel
  have hfound : narrowRegion.functionAt ⟨0x2000⟩ = .ok (some
      { symbol := { name := "f", address := ⟨0x1000⟩ },
        range := { start := ⟨0x1000⟩, stop := ⟨0x3000⟩ } }) := by
    decide +kernel
  obtain ⟨⟨hsymbols, -⟩, hresolve, -, hfunctionAt, a, b, ha, hb, hchecked, hissues⟩ :=
    answers_of_pointerSize (r := narrowRegion) (s := wideRegion) hnarrow hwide rfl rfl
  have haudited : (fun a ↦ (a.checked, a.issues)) <$> narrowRegion.audit =
      .ok (2, [.unordered 1 ⟨0x2000⟩ ⟨0x1000⟩]) := by
    decide +kernel
  refine ⟨hnarrow, hwide, hlisted, hsymbols ▸ hlisted, hf, (hresolve "f").1 ▸ hf, hbelow,
    (hfunctionAt _).1 ▸ hbelow, hfound, (hfunctionAt _).1 ▸ hfound, haudited, ?_⟩
  rw [ha, Outcome.map_ok, hchecked, hissues] at haudited
  rw [hb, Outcome.map_ok, haudited]

end FuncMeta.Manifest
