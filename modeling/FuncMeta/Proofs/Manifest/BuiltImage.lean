import FuncMeta.Proofs.Image.Naming
import FuncMeta.Proofs.Image.Search
import FuncMeta.Proofs.Manifest.Layout
import FuncMeta.Image.Manifest

/-!
# Decoding a built image

A region that holds the image of a manifest has the header of the manifest, all its records and, for
each function, a descriptor that leads to its name. The numbers read are the numbers written, since
all of them have room and the image is shorter than half of the address space. Main statements:
`decode_eq`, `recordAt_eq`, `entryAt_length` and `name_eq`.
-/

namespace FuncMeta

namespace Manifest

/-- The header of the image. -/
def header (m : Manifest) : Header where
  magic := Header.layoutMagic
  minInstructionSize := m.minInstructionSize
  pointerSize := m.pointerSize
  functionCount := .ofNat m.functions.length
  fileCount := .ofNat m.files.length
  nameTableOffset := .ofNat m.nameTableOffset
  cuTableOffset := .ofNat m.cuTableOffset
  fileTableOffset := .ofNat m.fileTableOffset
  pcTableOffset := .ofNat m.pcTableOffset
  functionTableOffset := .ofNat m.functionTableOffset

/-- A region read under the header of the manifest. -/
def imageOn (m : Manifest) (r : Region) : Image where
  region := r
  header := m.header

/-- The image of a manifest is read under the header that the manifest determines. -/
@[simp] theorem imageOn_header (m : Manifest) (r : Region) : (m.imageOn r).header = m.header := rfl

/-- The header gives the size of pointers of the manifest. -/
@[simp] theorem header_pointerSize (m : Manifest) : m.header.pointerSize = m.pointerSize := rfl

/-- The image of a manifest on a region is read from that region. -/
@[simp] theorem imageOn_region (m : Manifest) (r : Region) : (m.imageOn r).region = r := rfl

/-- A region holds the image of a manifest whose last function ends at `stop`. -/
structure IsHeldBy (m : Manifest) (stop : Nat) (r : Region) : Prop where
  isWordSize : IsWordSize m.pointerSize
  allHaveRoom : m.AllHaveRoom stop
  stop_lt : stop < Word.limit
  toList_eq : r.toList = m.image stop

variable {m : Manifest} {stop place value i : Nat} {r : Region}

/-- Whatever is built is held by the region that it is written to. -/
theorem exists_isHeldBy {bytes : List UInt8} (h : m.encode = .ok bytes) (hr : r.toList = bytes) :
    ∃ stop, m.endOfText = .ok stop ∧ m.IsHeldBy stop r := by
  obtain ⟨hw, stop, hstop, hroom, rfl⟩ := encode_eq_ok_iff.mp h
  exact ⟨stop, hstop, hw, hroom, (endOfText_eq_ok_iff.mp hstop).2, hr⟩

namespace IsHeldBy

/-- The size of a built image is that of its function table, the descriptors and what stands in
front. -/
theorem size_eq (h : m.IsHeldBy stop r) :
    r.size = m.functionTableOffset + (m.functions.length + 1) * (2 * m.pointerSize.toNat) +
      m.functions.length * m.descriptorSize := by
  rw [← Region.length_toList, h.toList_eq, length_image h.isWordSize]

/-- The function table and the record after the last function lie in the region. -/
theorem table_le_size (h : m.IsHeldBy stop r) :
    m.functionTableOffset + (m.functions.length + 1) * (2 * m.pointerSize.toNat) ≤ r.size := by
  rw [h.size_eq]
  exact Nat.le_add_right ..

/-- Every word of the header is smaller than the region. -/
theorem headerWord_lt (h : m.IsHeldBy stop r) : ∀ value ∈ m.headerWords, value < r.size := by
  have htable := h.table_le_size
  have hpc := pcTableOffset_lt h.isWordSize
  -- The counts are no offsets: a file takes four bytes of the unit table, a function a record.
  have hunits := length_unitBytes m
  have hrows : (m.functions.length + 1) * 8 ≤
      (m.functions.length + 1) * (2 * m.pointerSize.toNat) := by
    apply Nat.mul_le_mul_left
    rcases h.isWordSize.toNat_eq with hw | hw <;> omega
  rw [pcTableOffset, fileTableOffset, cuTableOffset] at hpc
  intro value hvalue
  simp only [headerWords, pcTableOffset, fileTableOffset, cuTableOffset, List.mem_cons,
    List.not_mem_nil, or_false] at hvalue
  omega

private theorem headerWord_lt_limit (h : m.IsHeldBy stop r) (hvalue : value ∈ m.headerWords) :
    value < Word.limit :=
  Nat.lt_trans (h.headerWord_lt value hvalue) r.size_lt_limit

/-- A word that has room is read as it was written. -/
theorem wordAt_eq (h : m.IsHeldBy stop r) (hroom : HasRoom m.pointerSize value)
    (hlt : value < Word.limit)
    (hw : window (m.image stop) place m.pointerSize.toNat = m.wordBytes value) :
    r.wordAt place m.pointerSize = UInt64.ofNat value := by
  rw [Region.wordAt, Region.natAt, h.toList_eq, hw, wordBytes,
    LittleEndian.decode_encode_of_lt (hroom.lt_limit h.isWordSize hlt)]

private theorem wordAt_wordPlace (h : m.IsHeldBy stop r) (hi : i < m.headerWords.length) :
    r.wordAt (Header.wordPlace m.pointerSize i) m.pointerSize = UInt64.ofNat m.headerWords[i] :=
  h.wordAt_eq (h.allHaveRoom.header _ (List.getElem_mem hi))
    (h.headerWord_lt_limit (List.getElem_mem hi)) (window_headerWord hi)

private theorem natAt_lead (h : m.IsHeldBy stop r) {offset width : Nat}
    (hle : offset + width ≤ Header.leadSize) :
    r.natAt offset width = LittleEndian.decode (window m.leadBytes offset width) := by
  rw [Region.natAt, h.toList_eq, window_lead hle]

/-- The region shows the header of the manifest. -/
theorem shown_eq (h : m.IsHeldBy stop r) : Header.shown r = m.header := by
  have hmagic : UInt32.ofNat (r.natAt 0 4) = Header.layoutMagic := by
    have hlead : window m.leadBytes 0 4 = LittleEndian.encode 4 Header.layoutMagic.toNat :=
      window_left (LittleEndian.encode 4 Header.layoutMagic.toNat) _
    rw [h.natAt_lead (by decide), hlead, LittleEndian.decode_encode_of_lt (by decide),
      UInt32.ofNat_toNat]
  have hmin : UInt8.ofNat (r.natAt 6 1) = m.minInstructionSize := by
    have hlead : window m.leadBytes 6 1 = [m.minInstructionSize] := rfl
    rw [h.natAt_lead (by decide), hlead, LittleEndian.decode_singleton, UInt8.ofNat_toNat]
  have hpointer : UInt8.ofNat (r.natAt 7 1) = m.pointerSize := by
    have hlead : window m.leadBytes 7 1 = [m.pointerSize] := rfl
    rw [h.natAt_lead (by decide), hlead, LittleEndian.decode_singleton, UInt8.ofNat_toNat]
  have word (i : Nat) (hi : i < 7) : r.wordAt (Header.wordPlace m.pointerSize i) m.pointerSize =
      UInt64.ofNat (m.headerWords.get ⟨i, hi⟩) := h.wordAt_wordPlace hi
  rw [Header.shown, hpointer, Header.shownWith, hmagic, hmin, word 0 (by decide),
    word 1 (by decide), word 2 (by decide), word 3 (by decide), word 4 (by decide),
    word 5 (by decide), word 6 (by decide)]
  rfl

/-- The words of the header of a built image are not cut off. -/
theorem toNat_ofNat (h : m.IsHeldBy stop r) (hvalue : value ∈ m.headerWords) :
    (UInt64.ofNat value).toNat = value :=
  UInt64.toNat_ofNat_of_lt' (h.headerWord_lt_limit hvalue)

/-- A built image has as many functions as its manifest. -/
theorem count_eq (h : m.IsHeldBy stop r) : (m.imageOn r).count = m.functions.length :=
  h.toNat_ofNat (by simp [headerWords])

/-- The tables start where the manifest puts them. -/
theorem offsets_eq (h : m.IsHeldBy stop r) :
    m.header.nameTableOffset.toNat = m.nameTableOffset ∧
      m.header.cuTableOffset.toNat = m.cuTableOffset ∧
      m.header.fileTableOffset.toNat = m.fileTableOffset ∧
      m.header.pcTableOffset.toNat = m.pcTableOffset ∧
      m.header.functionTableOffset.toNat = m.functionTableOffset := by
  have hall : ∀ value ∈ m.headerWords, (UInt64.ofNat value).toNat = value :=
    fun value hvalue ↦ h.toNat_ofNat hvalue
  simp only [headerWords, List.forall_mem_cons] at hall
  exact ⟨hall.2.2.1, hall.2.2.2.1, hall.2.2.2.2.1, hall.2.2.2.2.2.1, hall.2.2.2.2.2.2.1⟩

/-- The header of a built image says where its function table starts. -/
theorem functionTableOffset_eq (h : m.IsHeldBy stop r) :
    m.header.functionTableOffset.toNat = m.functionTableOffset :=
  h.offsets_eq.2.2.2.2

/-- A descriptor of the image ends inside it, padding included. -/
theorem descriptorEnd_le (h : m.IsHeldBy stop r) (hi : i < m.functions.length) :
    m.functionTableOffset + m.metadataOffset i + m.descriptorSize ≤ r.size := by
  have hmul : (i + 1) * m.descriptorSize ≤ m.functions.length * m.descriptorSize :=
    Nat.mul_le_mul_right _ hi
  rw [Nat.succ_mul] at hmul
  rw [h.size_eq, metadataOffset]
  omega

/-- A descriptor of the image starts in front of its end. -/
theorem metadataOffset_le (h : m.IsHeldBy stop r) (hi : i < m.functions.length) :
    m.functionTableOffset + m.metadataOffset i + (m.pointerSize.toNat + 4) ≤ r.size := by
  have hend := h.descriptorEnd_le hi
  have hfields := fields_le_descriptorSize h.isWordSize
  omega

/-- The metadata offsets of a built image are words. -/
theorem metadataOffset_lt (h : m.IsHeldBy stop r) (hi : i < m.functions.length) :
    m.metadataOffset i < Word.limit := by
  have hle := h.metadataOffset_le hi
  have hsize := r.size_lt_limit
  omega

/-- Every word of the function table has room and is a word of the machine. -/
theorem row_lt (h : m.IsHeldBy stop r) : ∀ row ∈ m.rows stop,
    (HasRoom m.pointerSize row.1 ∧ row.1 < Word.limit) ∧
      HasRoom m.pointerSize row.2 ∧ row.2 < Word.limit := by
  intro row hrow
  rcases List.mem_append.mp hrow with hrow | hrow
  · obtain ⟨hentry, hoffset⟩ := h.allHaveRoom.functions row hrow
    obtain ⟨⟨f, i⟩, hf, rfl⟩ := List.mem_map.mp hrow
    have hi := (List.getElem?_eq_some_iff.mp (List.mem_zipIdx_iff_getElem?.mp hf)).1
    exact ⟨⟨hentry, f.2.toNat_lt⟩, hoffset, h.metadataOffset_lt hi⟩
  · cases List.mem_singleton.mp hrow
    exact ⟨⟨h.allHaveRoom.stop, h.stop_lt⟩, fun _ ↦ Nat.succ_pos _, Nat.succ_pos _⟩

/-- The number of functions is not negative as a signed word. -/
theorem count_lt (h : m.IsHeldBy stop r) :
    m.functions.length < LittleEndian.limit m.pointerSize.toNat / 2 := by
  -- Words of four bytes bound the offset of the last descriptor, words of eight bytes bound nothing
  -- that is written; there the size of the region bounds the function table.
  rcases h.isWordSize with hw | hw
  · rw [hw]
    show m.functions.length < 0x80000000
    by_cases hzero : m.functions.length = 0
    · omega
    · have hroom := (h.allHaveRoom.function (i := m.functions.length - 1) (by omega)).2 hw
      rw [metadataOffset, hw] at hroom
      change (m.functions.length + 1) * 8 + _ < _ at hroom
      omega
  · have htable := h.table_le_size
    have hsize : r.size < 0x8000000000000000 := r.size_lt_half
    rw [hw] at htable ⊢
    change m.functionTableOffset + (m.functions.length + 1) * 16 ≤ r.size at htable
    show m.functions.length < 0x8000000000000000
    omega

/-- A built image has an accepted header, that of its manifest. -/
theorem decode_eq (h : m.IsHeldBy stop r) : Header.decode r = .ok m.header := by
  refine Header.decode_eq_ok_iff.mpr ⟨h.shown_eq, rfl, h.isWordSize, ?_, ?_, ?_⟩
  · exact Nat.le_of_lt (h.headerWord_lt m.nameTableOffset (by simp [headerWords]))
  · show (m.imageOn r).count < _
    rw [h.count_eq]
    exact h.count_lt
  · intro table htable
    obtain ⟨hname, hcu, hfile, hpc, hfunction⟩ := h.offsets_eq
    apply h.headerWord_lt
    simp only [Header.tables, hname, hcu, hfile, hpc, hfunction, List.mem_cons, List.not_mem_nil,
      or_false] at htable
    rcases htable with rfl | rfl | rfl | rfl | rfl <;> simp [headerWords]

/-- A built image is read under its header. -/
theorem ofRegion_eq (h : m.IsHeldBy stop r) : Image.ofRegion r = .ok (m.imageOn r) :=
  Image.ofRegion_eq_ok_iff.mpr ⟨rfl, h.decode_eq⟩

/-- The records of a built image stand one after another from the start of the function table on. -/
theorem recordStart_eq (h : m.IsHeldBy stop r) (i : Nat) :
    (m.imageOn r).recordStart i = m.functionTableOffset + i * (2 * m.pointerSize.toNat) := by
  rw [← h.functionTableOffset_eq, Nat.add_comm]
  rfl

/-- Every record lies in the region, also the one after the last function. -/
theorem hasRecord (h : m.IsHeldBy stop r) (hi : i ≤ m.functions.length) :
    (m.imageOn r).HasRecord i := by
  have htable := h.table_le_size
  have hmul : (i + 1) * (2 * m.pointerSize.toNat) ≤
      (m.functions.length + 1) * (2 * m.pointerSize.toNat) :=
    Nat.mul_le_mul_right _ (Nat.succ_le_succ hi)
  rw [Nat.succ_mul] at hmul
  rw [Image.HasRecord, h.recordStart_eq]
  show m.functionTableOffset + i * (2 * m.pointerSize.toNat) + 2 * m.pointerSize.toNat ≤ r.size
  omega

/-- The record that the region shows at an index is the one that was written. -/
theorem recordAt_eq_row (h : m.IsHeldBy stop r) (hi : i < (m.rows stop).length) :
    (m.imageOn r).recordAt i =
      { entry := ⟨.ofNat (m.rows stop)[i].1⟩, metadataOffset := .ofNat (m.rows stop)[i].2 } := by
  obtain ⟨⟨hroom₁, hlt₁⟩, hroom₂, hlt₂⟩ := h.row_lt _ (List.getElem_mem hi)
  have hrow := window_row h.isWordSize hi
  have hentry := window_left (m.wordBytes (m.rows stop)[i].1) (m.wordBytes (m.rows stop)[i].2)
  have hoffset := window_right (m.wordBytes (m.rows stop)[i].1) (m.wordBytes (m.rows stop)[i].2)
  rw [length_wordBytes, ← rowBytes, ← hrow, window_window (by omega), Nat.add_zero] at hentry
  rw [length_wordBytes, length_wordBytes, ← rowBytes, ← hrow, window_window (by omega)] at hoffset
  rw [Image.recordAt, h.recordStart_eq]
  congr 1
  · exact congrArg Address.mk (h.wordAt_eq hroom₁ hlt₁ hentry)
  · exact h.wordAt_eq hroom₂ hlt₂ hoffset

/-- The records of a built image are the functions of its manifest in order. -/
theorem recordAt_eq (h : m.IsHeldBy stop r) (hi : i < m.functions.length) :
    (m.imageOn r).recordAt i =
      { entry := ⟨m.functions[i].2⟩, metadataOffset := .ofNat (m.metadataOffset i) } := by
  have hrow : i < (m.rows stop).length := by
    rw [length_rows]
    omega
  have hget : (m.rows stop)[i] = (m.functions[i].2.toNat, m.metadataOffset i) := by
    simp [rows, functionRows, hi]
  rw [h.recordAt_eq_row hrow, hget, UInt64.ofNat_toNat]

/-- The function table ends with the end of the last function and a zero. -/
theorem recordAt_length (h : m.IsHeldBy stop r) :
    (m.imageOn r).recordAt m.functions.length =
      { entry := ⟨.ofNat stop⟩, metadataOffset := 0 } := by
  have hrow : m.functions.length < (m.rows stop).length := by
    rw [length_rows]
    exact Nat.lt_succ_self _
  have hget : (m.rows stop)[m.functions.length] = (stop, 0) := by
    simp [rows, functionRows]
  rw [h.recordAt_eq_row hrow, hget]
  rfl

/-- The entry behind the last function of a built image is the end of that function. -/
theorem entryAt_length (h : m.IsHeldBy stop r) :
    (m.imageOn r).entryAt m.functions.length = ⟨.ofNat stop⟩ := by
  rw [Image.entryAt, h.recordAt_length]

/-- The name table ends where the compilation unit table starts. -/
theorem nameTableEnd_eq (h : m.IsHeldBy stop r) :
    (m.imageOn r).nameTableEnd = m.cuTableOffset := by
  obtain ⟨hname, hcu, hfile, hpc, hfunction⟩ := h.offsets_eq
  have hnameCu : m.nameTableOffset ≤ m.cuTableOffset := Nat.le_add_right ..
  have hcuFile : m.cuTableOffset ≤ m.fileTableOffset := Nat.le_add_right ..
  have hfilePc : m.fileTableOffset ≤ m.pcTableOffset := Nat.le_add_right ..
  have hpcFunction := pcTableOffset_lt h.isWordSize
  have hlater : (TableKind.later .functionName).filterMap m.header.offset? =
      [m.cuTableOffset, m.fileTableOffset, m.pcTableOffset, m.functionTableOffset] := by
    rw [← hcu, ← hfile, ← hpc, ← hfunction]
    rfl
  have hnext : m.header.nextStart? .functionName m.nameTableOffset = some m.cuTableOffset :=
    Header.nextStart?_of_sorted hlater hnameCu (by simp; omega)
  have hstart : m.header.offset? .functionName = some m.nameTableOffset := congrArg some hname
  have hsize := h.headerWord_lt m.cuTableOffset (by simp [headerWords])
  exact (Header.tableEnd_of_nextStart? _ hstart hnext).trans (Nat.min_eq_left (Nat.le_of_lt hsize))

/-- The descriptor of a function holds the offset of its name. -/
theorem nameOffset_eq (h : m.IsHeldBy stop r) (hi : i < m.functions.length)
    (hlt : m.nameOffset m.functions[i].1 < 0x100000000) :
    (m.imageOn r).nameOffset (.ofNat (m.metadataOffset i)) =
      .ok (Int32.ofNat (m.nameOffset m.functions[i].1)) := by
  have hmetadata : (UInt64.ofNat (m.metadataOffset i)).toNat = m.metadataOffset i :=
    UInt64.toNat_ofNat_of_lt' (h.metadataOffset_lt hi)
  have hnat : r.natAt (m.functionTableOffset + m.metadataOffset i + m.pointerSize.toNat) 4 =
      m.nameOffset m.functions[i].1 := by
    rw [Region.natAt, h.toList_eq, window_descriptorName h.isWordSize stop hi,
      LittleEndian.decode_encode_of_lt hlt]
  have hle := h.metadataOffset_le hi
  rw [Image.nameOffset_of_le (by rw [hmetadata]; rw [← h.functionTableOffset_eq] at hle; exact hle),
    hmetadata]
  show Outcome.ok (Int32.ofNat (r.natAt (m.header.functionTableOffset.toNat +
    m.metadataOffset i + m.pointerSize.toNat) 4)) = _
  rw [h.functionTableOffset_eq, hnat]

/-- The name of each function is among the names. -/
theorem mem_names_of_mem {f : String × UInt64} (hf : f ∈ m.functions) : f.1 ∈ m.names :=
  List.mem_eraseDups.mpr (List.mem_map_of_mem hf)

/-- The name of the function at each index is among the names. -/
theorem mem_names (hi : i < m.functions.length) : m.functions[i].1 ∈ m.names :=
  mem_names_of_mem (List.getElem_mem hi)

/-- A name whose offset is not negative as a signed word is read up to its first null character. -/
theorem name_eq_beforeNull_of_lt (h : m.IsHeldBy stop r) (hi : i < m.functions.length)
    (hlt : m.nameOffset m.functions[i].1 < 0x80000000) :
    (m.imageOn r).name (.ofNat (m.metadataOffset i)) = .ok (beforeNull m.functions[i].1) := by
  obtain ⟨hle, hwindow⟩ := window_nameBytes (mem_names hi)
  obtain ⟨back, hback⟩ := exists_terminated_eq m.functions[i].1
  let cut := (beforeNull m.functions[i].1).toByteArray.data.toList
  have hterminated : (terminated m.functions[i].1).length = cut.length + (1 + back.length) := by
    rw [hback, List.length_append, List.length_append, List.length_singleton]
  have hoffset : (Int32.ofNat (m.nameOffset m.functions[i].1)).toInt =
      m.nameOffset m.functions[i].1 := Int32.toInt_ofNat_of_lt hlt
  have htable : (m.imageOn r).header.nameTableOffset.toNat = m.nameTableOffset := h.offsets_eq.1
  rw [Image.name, h.nameOffset_eq hi (by omega), Outcome.ok_bind]
  apply Image.nameAt_of_window (by omega) (zero_notMem_beforeNull _)
  · rw [htable, hoffset, Int.toNat_natCast]
    show window r.toList _ (cut.length + 1) = cut ++ [0]
    rw [h.toList_eq, window_names (by omega), ← take_window (by omega : cut.length + 1 ≤
      (terminated m.functions[i].1).length), hwindow, hback, ← List.append_assoc]
    exact List.take_left' List.length_append
  · rw [htable, hoffset, Int.toNat_natCast, h.nameTableEnd_eq, cuTableOffset]
    show m.nameTableOffset + m.nameOffset m.functions[i].1 + cut.length < _
    omega

/-- The descriptor of a function leads to what stands in front of the first null character of its
name. -/
theorem name_eq_beforeNull (h : m.IsHeldBy stop r) (hi : i < m.functions.length)
    (hnames : m.nameBytes.length < 0x80000000) :
    (m.imageOn r).name (.ofNat (m.metadataOffset i)) = .ok (beforeNull m.functions[i].1) := by
  have hle := (window_nameBytes (mem_names hi)).1
  exact h.name_eq_beforeNull_of_lt hi (by omega)

/-- The descriptor of a function leads to its name. -/
theorem name_eq (h : m.IsHeldBy stop r) (hi : i < m.functions.length)
    (hnames : m.nameBytes.length < 0x80000000)
    (hzero : 0 ∉ m.functions[i].1.toByteArray.data.toList) :
    (m.imageOn r).name (.ofNat (m.metadataOffset i)) = .ok m.functions[i].1 := by
  rw [h.name_eq_beforeNull hi hnames, beforeNull_eq_self hzero]

end IsHeldBy

end Manifest

end FuncMeta
