import FuncMeta.Proofs.Manifest.Verdict

/-!
# The tables of a built image

Building fails for a size of pointers other than four and eight, and with words of four bytes at the
first word without room, in the order in which words are written. With words of eight bytes
everything has room; there building halts if the end of the last function is not given and leaves
the address space. With words of four bytes that cannot happen, for the entry that leads to it is
refused before: `encode_eq_error_iff` and `encode_eq_halt_iff`.

The offsets in the header of a built image do not decrease, and what stands between them is what the
manifest lists: the names, where each file starts, the files, and zeros up to an aligned function
table. Behind that stand the records, the end of the last function, and one descriptor for each
function, aligned and apart from each other, up to the end of the image. Main statements:
`IsHeldBy.holdsTables`, `IsHeldBy.holdsFunctions` and `encode_of_any_manifest`.
-/

namespace FuncMeta

namespace Manifest

variable {m : Manifest} {value : Nat}

/-- The words of an image in the order in which they are written. -/
def wordsWritten (m : Manifest) : List Nat :=
  m.headerWords ++ rowWords (m.rows m.codeEnd) ++ m.functions.map fun f ↦ f.2.toNat

/-- The highest entry leaves the words of the machine behind it exactly if some entry does. -/
theorem limit_le_codeEnd_iff :
    Word.limit ≤ m.codeEnd ↔
      m.textEnd = none ∧ ∃ f ∈ m.functions, Word.limit ≤ f.2.toNat + trailingSize := by
  rw [codeEnd]
  cases m.textEnd with
  | some given =>
    have hlt : given.toNat < Word.limit := given.toNat_lt
    simp only [reduceCtorEq, false_and, iff_false, Nat.not_le]
    exact hlt
  | none =>
    dsimp only
    rw [eq_self_iff_true, true_and]
    cases hmax : (m.functions.map fun f ↦ f.2.toNat).max? with
    | none =>
      rw [List.max?_eq_none_iff, List.map_eq_nil_iff] at hmax
      rw [hmax]
      simp [trailingSize, Word.limit]
    | some highest =>
      obtain ⟨hmem, hall⟩ := List.max?_eq_some_iff.mp hmax
      rw [Option.getD_some]
      constructor
      · intro hle
        obtain ⟨f, hf, rfl⟩ := List.mem_map.mp hmem
        exact ⟨f, hf, hle⟩
      · rintro ⟨f, hf, hle⟩
        have hhighest : f.2.toNat ≤ highest := hall _ (List.mem_map_of_mem hf)
        omega

/-- With words of eight bytes everything has room. -/
theorem encode_of_eight (h : m.pointerSize = 8) :
    m.encode = if m.codeEnd < Word.limit then .ok (m.image m.codeEnd) else .halt := by
  have hroom {α : Type} (values : List Nat) (a : α) :
      written m.pointerSize values a = .ok a := by
    refine written_eq_ok_iff.mpr ⟨fun value _ hfour ↦ ?_, rfl⟩
    rw [h] at hfour
    cases hfour
  rw [encode_eq (.inr h), endOfText_eq_fit, Word.fit]
  simp only [hroom]
  split
  · rfl
  · rfl

/-- With words of four bytes the first word without room is refused. -/
theorem encode_of_four (h : m.pointerSize = 4) :
    m.encode = .ofExcept (written m.pointerSize m.wordsWritten (m.image m.codeEnd)) := by
  have hwords : m.wordsWritten = (m.headerWords ++ rowWords m.functionRows) ++
      ([m.codeEnd, 0] ++ m.functions.map fun f ↦ f.2.toNat) := by
    rw [wordsWritten, rows, rowWords, List.flatMap_append, ← rowWords, List.flatMap_singleton]
    simp only [List.append_assoc]
  rw [hwords, ofExcept_written_append, encode_eq (.inl h)]
  cases hfront : written m.pointerSize (m.headerWords ++ rowWords m.functionRows) () with
  | error e => rfl
  | ok _ =>
    -- An entry without room in four bytes would have been refused with its record.
    have hend : m.codeEnd < Word.limit := by
      apply Nat.lt_of_not_le
      intro hle
      obtain ⟨-, f, hf, hhigh⟩ := limit_le_codeEnd_iff.mp hle
      have hrows := (List.forall_mem_append.mp (written_eq_ok_iff.mp hfront).1).2
      obtain ⟨i, hi, rfl⟩ := List.mem_iff_getElem.mp hf
      have hlow := (forall_mem_rowWords.mp hrows _ (mem_functionRows hi)).1 h
      rw [trailingSize, Word.limit] at hhigh
      omega
    rw [endOfText_eq_fit, Word.fit_of_lt hend]
    rfl

private theorem encode_of_not_isWordSize (h : ¬ IsWordSize m.pointerSize) :
    m.encode = .error (.unsupportedPointerSize m.pointerSize) := by
  rw [encode, if_pos (not_or.mp h)]

/-- Building fails for a size of pointers that there is not, or at the first word that has no room
in four bytes. -/
theorem encode_eq_error_iff {e : LayoutError} :
    m.encode = .error e ↔
      (m.pointerSize ≠ 4 ∧ m.pointerSize ≠ 8 ∧ e = .unsupportedPointerSize m.pointerSize) ∨
        (m.pointerSize = 4 ∧
          ∃ value, m.wordsWritten.find? (fun word ↦ 0x100000000 ≤ word) = some value ∧
            e = noRoom value) := by
  by_cases hfour : m.pointerSize = 4
  · have hroom : (fun word ↦ decide (¬ HasRoom m.pointerSize word)) =
        fun word ↦ decide (0x100000000 ≤ word) := by
      funext word
      exact decide_eq_decide.mpr (by simp [HasRoom, hfour])
    rw [encode_of_four hfour, Outcome.ofExcept_eq_error_iff, written, hroom]
    cases m.wordsWritten.find? fun word ↦ 0x100000000 ≤ word with
    | some value => simp [hfour, eq_comm]
    | none => simp [hfour]
  · by_cases height : m.pointerSize = 8
    · rw [encode_of_eight height]
      split
      · simp [height]
      · simp [height]
    · rw [encode_of_not_isWordSize (not_or.mpr ⟨hfour, height⟩)]
      simp [hfour, height, eq_comm]

/-- Building halts only with words of eight bytes, if the end of the last function is not given and
leaves the address space. -/
theorem encode_eq_halt_iff :
    m.encode = .halt ↔
      m.pointerSize = 8 ∧ m.textEnd = none ∧
        ∃ f ∈ m.functions, Word.limit ≤ f.2.toNat + trailingSize := by
  rw [← limit_le_codeEnd_iff]
  by_cases hfour : m.pointerSize = 4
  · rw [encode_of_four hfour]
    simp [hfour]
  · by_cases height : m.pointerSize = 8
    · rw [encode_of_eight height]
      split
      · simp [height]
        omega
      · simp [height]
        omega
    · rw [encode_of_not_isWordSize (not_or.mpr ⟨hfour, height⟩)]
      simp [height]

end Manifest

namespace Image

/-- The bytes from one place of an image up to another. -/
def between (t : Image) (start stop : Nat) : List UInt8 :=
  window t.region.toList start (stop - start)

/-- Where the compilation unit table says that a file starts in the file table. -/
def fileStart (t : Image) (index : Nat) : Nat :=
  t.region.natAt (t.header.cuTableOffset.toNat + index * 4) 4

/-- The tables in front of the function table hold what a manifest lists. -/
structure HoldsTables (t : Image) (m : Manifest) : Prop where
  fileCount_eq : t.header.fileCount.toNat = m.files.length
  /-- The tables stand in their declared order behind the header. -/
  sorted : (t.header.tables.map Prod.snd).Pairwise (· ≤ ·)
  nameTable_start : t.header.nameTableOffset.toNat = t.header.size
  /-- The names stand in the order of their first functions, each once. -/
  names : t.between t.header.nameTableOffset.toNat t.header.cuTableOffset.toNat =
    (m.functions.map Prod.fst).eraseDups.flatMap Manifest.terminated
  /-- Each file has four bytes for its start. -/
  units : t.header.fileTableOffset.toNat =
    t.header.cuTableOffset.toNat + m.files.length * 4
  files : t.between t.header.fileTableOffset.toNat t.header.pcTableOffset.toNat =
    m.files.flatMap Manifest.terminated
  /-- A file starts behind the files in front of it. -/
  fileStart : ∀ i < m.files.length,
    t.fileStart i = ((m.files.take i).flatMap Manifest.terminated).length
  file : ∀ (i : Nat) (_ : i < m.files.length),
    window t.region.toList (t.header.fileTableOffset.toNat + t.fileStart i)
      (Manifest.terminated m.files[i]).length = Manifest.terminated m.files[i]
  /-- The code position table is one zero, and more zeros follow up to the next whole word. -/
  gap : ∃ padding < t.header.pointerSize.toNat,
    t.between t.header.pcTableOffset.toNat t.header.functionTableOffset.toNat =
      0 :: List.replicate padding 0
  functionTable_aligned : t.header.pointerSize.toNat ∣ t.header.functionTableOffset.toNat

/-- The function table and what stands behind it hold the functions of a manifest, the last of which
ends at `stop`. -/
structure HoldsFunctions (t : Image) (m : Manifest) (stop : Nat) : Prop where
  count_eq : t.count = m.functions.length
  record : ∀ (i : Nat) (_ : i < m.functions.length),
    t.HasRecord i ∧ (t.recordAt i).entry = ⟨m.functions[i].2⟩
  /-- The last record is the end of the last function and a zero. -/
  sentinel : t.HasRecord m.functions.length ∧
    (t.recordAt m.functions.length).entry.toNat = stop ∧
    (t.recordAt m.functions.length).metadataOffset = 0
  /-- The descriptors follow, each as far behind the one before it as room is made for it. -/
  descriptor_place : ∀ i < m.functions.length,
    t.descriptorPlace (t.recordAt i).metadataOffset =
      t.recordStart (m.functions.length + 1) + i * m.descriptorSize
  descriptor_aligned : ∀ i < m.functions.length,
    t.header.pointerSize.toNat ∣ t.descriptorPlace (t.recordAt i).metadataOffset
  descriptors_disjoint : ∀ i j, i < j → j < m.functions.length →
    t.descriptorPlace (t.recordAt i).metadataOffset + Descriptor.sizeFor t.header.pointerSize ≤
      t.descriptorPlace (t.recordAt j).metadataOffset
  /-- The last descriptor ends where the image does. -/
  size_eq : t.region.size =
    t.recordStart (m.functions.length + 1) + m.functions.length * m.descriptorSize
  descriptor : ∀ (i : Nat) (_ : i < m.functions.length),
    t.descriptor (t.recordAt i).metadataOffset = .ok (m.descriptorOf m.functions[i])
  /-- All bytes of a descriptor behind the offset of the name are zero. -/
  descriptor_rest : ∀ i < m.functions.length,
    t.between
      (t.descriptorPlace (t.recordAt i).metadataOffset + (t.header.pointerSize.toNat + 4))
      (t.descriptorPlace (t.recordAt i).metadataOffset + m.descriptorSize) =
        List.replicate (m.descriptorSize - (t.header.pointerSize.toNat + 4)) 0
  /-- Functions share the bytes of their name exactly if they have the same one. -/
  nameOffset_eq_iff : ∀ f ∈ m.functions, ∀ g ∈ m.functions,
    (m.descriptorOf f).nameOffset = (m.descriptorOf g).nameOffset ↔ f.1 = g.1

end Image

namespace Manifest

variable {m : Manifest} {stop i : Nat} {r : Region}

/-- The size that is computed before anything is written. -/
def totalSize (m : Manifest) : Nat :=
  m.functionTableOffset + (m.functions.length + 1) * (2 * m.pointerSize.toNat) +
    m.functions.length * m.descriptorSize

namespace IsHeldBy

private theorem between_eq (h : m.IsHeldBy stop r) (start length : Nat) :
    (m.imageOn r).between start (start + length) = window (m.image stop) start length := by
  rw [Image.between, Nat.add_sub_cancel_left, ← h.toList_eq]
  rfl

/-- Where a file starts is read as it was written. -/
theorem fileStart_eq (h : m.IsHeldBy stop r) (hi : i < m.files.length)
    (hfiles : m.fileBytes.length < 0x80000000) :
    (m.imageOn r).fileStart i = ((m.files.take i).flatMap terminated).length := by
  have hstart : i < (startsFrom 0 m.files).length := by
    rwa [length_startsFrom]
  have hlt : ((m.files.take i).flatMap terminated).length < LittleEndian.limit 4 := by
    have hend := (window_file m hi).1
    rw [LittleEndian.limit_four]
    omega
  have hle : i * 4 + 4 ≤ m.unitBytes.length := by
    rw [length_unitBytes]
    omega
  have hunit := window_flatMap (LittleEndian.length_encode 4) hstart
  rw [← unitBytes, ← window_unitBytes m stop, window_window hle, getElem_startsFrom,
    Nat.zero_add] at hunit
  rw [Image.fileStart, imageOn_header, imageOn_region, h.offsets_eq.2.1, Region.natAt,
    h.toList_eq, hunit, LittleEndian.decode_encode_of_lt hlt]

/-- A built image holds the names, the compilation units and the files of its manifest. -/
theorem holdsTables (h : m.IsHeldBy stop r) (hfiles : m.fileBytes.length < 0x80000000) :
    (m.imageOn r).HoldsTables m := by
  obtain ⟨hname, hcu, hfile, hpc, hfunction⟩ := h.offsets_eq
  have htables : (m.imageOn r).header.tables.map Prod.snd = [m.nameTableOffset, m.cuTableOffset,
      m.fileTableOffset, m.pcTableOffset, m.functionTableOffset] := by
    rw [← hname, ← hcu, ← hfile, ← hpc, ← hfunction]
    rfl
  constructor
  case fileCount_eq => exact h.toNat_ofNat (by simp [headerWords])
  case sorted =>
    rw [htables]
    exact pairwise_tableOffsets h.isWordSize
  case nameTable_start => exact hname
  case names =>
    rw [imageOn_header, hname, hcu, cuTableOffset, h.between_eq, ← Nat.add_zero m.nameTableOffset,
      window_names (by omega), window_zero_length]
    rfl
  case units =>
    rw [← length_unitBytes]
    exact hfile.trans (congrArg (· + _) hcu.symm)
  case files =>
    rw [imageOn_header, hfile, hpc]
    exact (h.between_eq _ _).trans (window_fileBytes m stop)
  case fileStart => exact fun i hi ↦ h.fileStart_eq hi hfiles
  case file =>
    intro i hi
    obtain ⟨hle, hwindow⟩ := window_file m hi
    rw [h.fileStart_eq hi hfiles, imageOn_header, imageOn_region, hfile, h.toList_eq,
      ← window_window hle, window_fileBytes, hwindow]
  case gap =>
    have hle := pcTableOffset_lt h.isWordSize
    have hlt := align_lt (m.pcTableOffset + 1) h.isWordSize.toNat_pos
    rw [← functionTableOffset] at hlt
    have hlength := length_gapBytes h.isWordSize
    have hend : m.functionTableOffset = m.pcTableOffset + m.gapBytes.length := by omega
    refine ⟨m.functionTableOffset - (m.pcTableOffset + 1), ?_, ?_⟩
    · rw [imageOn_header, header_pointerSize]
      omega
    · rw [imageOn_header, hpc, hfunction, ← gapBytes, hend, h.between_eq, window_gapBytes]
  case functionTable_aligned =>
    rw [imageOn_header, hfunction]
    exact dvd_align ..

private theorem place_recordAt (h : m.IsHeldBy stop r) (hi : i < m.functions.length) :
    (m.imageOn r).descriptorPlace ((m.imageOn r).recordAt i).metadataOffset =
      m.functionTableOffset + m.metadataOffset i := by
  rw [h.recordAt_eq hi, h.descriptorPlace_eq hi]

/-- A built image holds the records and the descriptors of the functions of its manifest. -/
theorem holdsFunctions (h : m.IsHeldBy stop r) (hnames : m.nameBytes.length < 0x80000000) :
    (m.imageOn r).HoldsFunctions m stop := by
  constructor
  case count_eq => exact h.count_eq
  case record =>
    intro i hi
    exact ⟨h.hasRecord (Nat.le_of_lt hi), congrArg Record.entry (h.recordAt_eq hi)⟩
  case sentinel =>
    rw [h.recordAt_length]
    exact ⟨h.hasRecord (Nat.le_refl _), UInt64.toNat_ofNat_of_lt' h.stop_lt, rfl⟩
  case descriptor_place =>
    intro i hi
    rw [h.place_recordAt hi, h.recordStart_eq, metadataOffset, Nat.add_assoc]
  case descriptor_aligned =>
    intro i hi
    rw [h.place_recordAt hi]
    exact dvd_descriptorPlace m i
  case descriptors_disjoint =>
    intro i j hij hj
    have hsize := sizeFor_le_descriptorSize h.isWordSize
    have hmul : (i + 1) * m.descriptorSize ≤ j * m.descriptorSize := Nat.mul_le_mul_right _ hij
    rw [Nat.succ_mul] at hmul
    rw [h.place_recordAt (Nat.lt_trans hij hj), h.place_recordAt hj, metadataOffset,
      metadataOffset, imageOn_header, header_pointerSize]
    omega
  case size_eq =>
    rw [h.recordStart_eq]
    exact h.size_eq
  case descriptor =>
    intro i hi
    rw [h.recordAt_eq hi, h.descriptor_eq hi]
  case descriptor_rest =>
    intro i hi
    have hle := fields_le_descriptorSize h.isWordSize
    have hend : m.functionTableOffset + m.metadataOffset i + m.descriptorSize =
        m.functionTableOffset + m.metadataOffset i + (m.pointerSize.toNat + 4) +
          (m.descriptorSize - (m.pointerSize.toNat + 4)) := by
      omega
    rw [h.place_recordAt hi, imageOn_header, header_pointerSize, hend, h.between_eq]
    exact window_descriptorRest h.isWordSize stop hi (Nat.le_refl _) (by omega)
  case nameOffset_eq_iff =>
    intro f hf g hg
    have toInt_nameOffset (f : String × UInt64) (hf : f ∈ m.functions) :
        (m.descriptorOf f).nameOffset.toInt = m.nameOffset f.1 := by
      have hle := (window_nameBytes (mem_names_of_mem hf)).1
      exact Int32.toInt_ofNat_of_lt (by omega)
    rw [← Int32.toInt_inj, toInt_nameOffset f hf, toInt_nameOffset g hg, Int.ofNat_inj,
      nameOffset_inj (mem_names_of_mem hf) (mem_names_of_mem hg)]

end IsHeldBy

/-- Building fails for a size of pointers that there is not, or with words of four bytes at the
first word that has no room there; it halts only with words of eight bytes, if the end of the last
function is not given and leaves the address space. What is built has the size that was computed
before. Its header is accepted, and its tables and descriptors stand where the header says and hold
what the manifest lists. -/
theorem encode_of_any_manifest (m : Manifest) :
    (∀ e, m.encode = .error e ↔
      (m.pointerSize ≠ 4 ∧ m.pointerSize ≠ 8 ∧ e = .unsupportedPointerSize m.pointerSize) ∨
        (m.pointerSize = 4 ∧
          ∃ value, m.wordsWritten.find? (fun word ↦ 0x100000000 ≤ word) = some value ∧
            e = noRoom value)) ∧
      (m.encode = .halt ↔ m.pointerSize = 8 ∧ m.textEnd = none ∧
        ∃ f ∈ m.functions, Word.limit ≤ f.2.toNat + trailingSize) ∧
      ∀ r : Region, m.encode = .ok r.toList → m.nameBytes.length < 0x80000000 →
        m.fileBytes.length < 0x80000000 →
          r.size = m.totalSize ∧ ∃ t : Image, Image.ofRegion r = .ok t ∧ t.region = r ∧
            t.header.pointerSize = m.pointerSize ∧ t.HoldsTables m ∧
            t.HoldsFunctions m m.codeEnd := by
  refine ⟨fun e ↦ encode_eq_error_iff, encode_eq_halt_iff, ?_⟩
  intro r hencode hnames hfiles
  obtain ⟨stop, hstop, hheld⟩ := exists_isHeldBy hencode rfl
  obtain ⟨rfl, -⟩ := endOfText_eq_ok_iff.mp hstop
  exact ⟨hheld.size_eq, m.imageOn r, hheld.ofRegion_eq, rfl, rfl, hheld.holdsTables hfiles,
    hheld.holdsFunctions hnames⟩

/-- A manifest with two functions of one name and with a file that has no name. -/
def sharedManifest : Manifest where
  pointerSize := 8
  functions := [("f", 0x1000), ("g", 0x2000), ("f", 0x3000)]
  files := ["a.go", ""]

/-- The image of that manifest. -/
def sharedBytes : List UInt8 :=
  [0xfa, 0xff, 0xff, 0xff, 0, 0, 1, 8] ++
    [3, 2, 64, 68, 76, 82, 88].flatMap (LittleEndian.encode 8) ++
    [102, 0, 103, 0] ++ [0, 0, 0, 0, 5, 0, 0, 0] ++ [97, 46, 103, 111, 0, 0] ++
    List.replicate 6 0 ++
    [0x1000, 64, 0x2000, 112, 0x3000, 160, 0x4000, 0].flatMap (LittleEndian.encode 8) ++
    LittleEndian.encode 8 0x1000 ++ LittleEndian.encode 4 0 ++ List.replicate 36 0 ++
    LittleEndian.encode 8 0x2000 ++ LittleEndian.encode 4 2 ++ List.replicate 36 0 ++
    LittleEndian.encode 8 0x3000 ++ LittleEndian.encode 4 0 ++ List.replicate 36 0

set_option maxRecDepth 20000 in
/-- In that image the functions of one name share its bytes, and the second file starts where the
first one ends. -/
theorem encode_of_any_manifest_shared :
    sharedManifest.encode = .ok sharedBytes ∧
      ∃ (r : Region) (t : Image), r.toList = sharedBytes ∧ Image.ofRegion r = .ok t ∧
        t.fileStart 1 = 5 ∧ (t.recordAt 3).entry.toNat = 0x4000 ∧
        (∃ d, t.descriptor (t.recordAt 1).metadataOffset = .ok d ∧ d.nameOffset = 2) ∧
        ∃ d, t.descriptor (t.recordAt 2).metadataOffset = .ok d ∧ d.nameOffset = 0 := by
  have hencode : sharedManifest.encode = .ok sharedBytes := by rfl
  let r : Region := { bytes := ⟨sharedBytes.toArray⟩, size_lt := by decide }
  obtain ⟨-, t, ht, -, -, htables, hfunctions⟩ :=
    (encode_of_any_manifest sharedManifest).2.2 r hencode (by decide) (by decide)
  refine ⟨hencode, r, t, rfl, ht, ?_, hfunctions.sentinel.2.1, ?_, ?_⟩
  · exact htables.fileStart 1 (by decide)
  · exact ⟨_, hfunctions.descriptor 1 (by decide), rfl⟩
  · exact ⟨_, hfunctions.descriptor 2 (by decide), rfl⟩

end Manifest

end FuncMeta
