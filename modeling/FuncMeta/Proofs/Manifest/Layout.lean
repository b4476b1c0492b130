import FuncMeta.Proofs.Manifest.Encoding

/-!
# What stands where in an image

The parts of an image have the sizes that the offsets in the header are computed from, so each part
starts where the header says. Main statements: `length_image`, `window_headerWord`, `window_names`,
`window_unitBytes`, `window_fileBytes`, `window_gapBytes`, `window_row` and
`window_paddedDescriptor`.
-/

namespace FuncMeta.Manifest

variable {m : Manifest} {stop : Nat}

/-- Aligning does not lower a number. -/
theorem le_align (n : Nat) {unit : Nat} (h : 0 < unit) : n ≤ align n unit := by
  have hmod := Nat.div_add_mod (n + unit - 1) unit
  have hlt := Nat.mod_lt (n + unit - 1) h
  rw [align, Nat.mul_comm]
  omega

/-- Aligning raises a number by less than the unit. -/
theorem align_lt (n : Nat) {unit : Nat} (h : 0 < unit) : align n unit < n + unit := by
  have hle := Nat.div_mul_le_self (n + unit - 1) unit
  rw [align]
  omega

/-- An aligned number is a multiple of the unit. -/
theorem dvd_align (n unit : Nat) : unit ∣ align n unit := Nat.dvd_mul_left ..

private theorem length_leadBytes (m : Manifest) : m.leadBytes.length = Header.leadSize := rfl

private theorem length_headerWords (m : Manifest) :
    (m.headerWords.flatMap m.wordBytes).length = 7 * m.pointerSize.toNat :=
  length_flatMap_of_length_eq m.length_wordBytes m.headerWords

/-- The names stand behind the header. -/
theorem length_header (m : Manifest) :
    (m.leadBytes ++ m.headerWords.flatMap m.wordBytes).length = m.nameTableOffset := by
  rw [List.length_append, length_leadBytes, length_headerWords, nameTableOffset, Header.sizeFor]

private theorem length_rowBytes (m : Manifest) (row : Nat × Nat) :
    (m.rowBytes row).length = 2 * m.pointerSize.toNat := by
  rw [rowBytes, List.length_append, length_wordBytes, length_wordBytes, Nat.two_mul]

/-- There is a row for each function, and one more. -/
theorem length_rows (m : Manifest) (stop : Nat) :
    (m.rows stop).length = m.functions.length + 1 := by
  rw [rows, List.length_append, functionRows, List.length_map, List.length_zipIdx,
    List.length_singleton]

/-- Each file starts somewhere. -/
theorem length_startsFrom (start : Nat) (texts : List String) :
    (startsFrom start texts).length = texts.length := by
  induction texts generalizing start with
  | nil => rfl
  | cons text texts ih => rw [startsFrom, List.length_cons, List.length_cons, ih]

/-- A text starts behind the ones in front of it. -/
theorem getElem_startsFrom {start i : Nat} {texts : List String}
    (hi : i < (startsFrom start texts).length) :
    (startsFrom start texts)[i] = start + ((texts.take i).flatMap terminated).length := by
  induction texts generalizing start i with
  | nil => cases hi
  | cons text texts ih =>
    cases i with
    | zero => rfl
    | succ i =>
      rw [List.take_succ_cons, List.flatMap_cons, List.length_append, ← Nat.add_assoc]
      exact ih (Nat.lt_of_succ_lt_succ hi)

/-- Each file takes four bytes of the compilation unit table. -/
theorem length_unitBytes (m : Manifest) : m.unitBytes.length = m.files.length * 4 := by
  rw [unitBytes, length_flatMap_of_length_eq (LittleEndian.length_encode 4), length_startsFrom]

private theorem length_descriptorFields (m : Manifest) (f : String × UInt64) :
    (m.descriptorFields f).length = m.pointerSize.toNat + 4 := by
  rw [descriptorFields, List.length_append, length_wordBytes, LittleEndian.length_encode]

/-- Room is made for all fields of a descriptor. -/
theorem sizeFor_le_descriptorSize (hw : IsWordSize m.pointerSize) :
    Descriptor.sizeFor m.pointerSize ≤ m.descriptorSize :=
  le_align _ hw.toNat_pos

/-- The used part of a descriptor lies inside it. -/
theorem fields_le_descriptorSize (hw : IsWordSize m.pointerSize) :
    m.pointerSize.toNat + 4 ≤ m.descriptorSize :=
  Nat.le_trans (Nat.add_le_add_left (by decide) _) (sizeFor_le_descriptorSize hw)

private theorem length_paddedDescriptor (hw : IsWordSize m.pointerSize) (f : String × UInt64) :
    (m.paddedDescriptor f).length = m.descriptorSize := by
  have hle := fields_le_descriptorSize hw
  rw [paddedDescriptor, List.length_rightpad, length_descriptorFields]
  omega

/-- The function table starts behind the one byte of the code position table. -/
theorem pcTableOffset_lt (hw : IsWordSize m.pointerSize) :
    m.pcTableOffset + 1 ≤ m.functionTableOffset :=
  le_align _ hw.toNat_pos

/-- The tables start in their declared order. -/
theorem pairwise_tableOffsets (hw : IsWordSize m.pointerSize) :
    [m.nameTableOffset, m.cuTableOffset, m.fileTableOffset, m.pcTableOffset,
      m.functionTableOffset].Pairwise (· ≤ ·) := by
  have hcu : m.nameTableOffset ≤ m.cuTableOffset := Nat.le_add_right ..
  have hfile : m.cuTableOffset ≤ m.fileTableOffset := Nat.le_add_right ..
  have hpc : m.fileTableOffset ≤ m.pcTableOffset := Nat.le_add_right ..
  have hfunction := pcTableOffset_lt hw
  simp only [List.pairwise_cons, List.forall_mem_cons, List.not_mem_nil, false_implies,
    implies_true, List.Pairwise.nil, and_true]
  omega

/-- The descriptors are aligned as the function table is. -/
theorem dvd_descriptorPlace (m : Manifest) (i : Nat) :
    m.pointerSize.toNat ∣ m.functionTableOffset + m.metadataOffset i := by
  have hrecords : m.pointerSize.toNat ∣ (m.functions.length + 1) * (2 * m.pointerSize.toNat) :=
    Nat.dvd_mul_left_of_dvd (Nat.dvd_mul_left ..) _
  have hdescriptors : m.pointerSize.toNat ∣ i * m.descriptorSize :=
    Nat.dvd_mul_left_of_dvd (dvd_align ..) _
  exact Nat.dvd_add (dvd_align ..) (Nat.dvd_add hrecords hdescriptors)

/-- The front of the image ends where the function table starts. -/
theorem length_frontBytes (hw : IsWordSize m.pointerSize) :
    m.frontBytes.length = m.functionTableOffset := by
  have hle := pcTableOffset_lt hw
  rw [frontBytes, List.length_rightpad]
  simp only [List.length_append, length_leadBytes, length_headerWords, List.length_singleton]
  rw [pcTableOffset, fileTableOffset, cuTableOffset, nameTableOffset, Header.sizeFor] at hle
  omega

/-- The image has the size that its builder makes room for. -/
theorem length_image (hw : IsWordSize m.pointerSize) (stop : Nat) :
    (m.image stop).length = m.functionTableOffset +
      (m.functions.length + 1) * (2 * m.pointerSize.toNat) +
      m.functions.length * m.descriptorSize := by
  rw [image, List.length_append, List.length_append, length_frontBytes hw,
    length_flatMap_of_length_eq m.length_rowBytes, length_rows,
    length_flatMap_of_length_eq (length_paddedDescriptor hw)]

/-- The image opens with the lead, the words of the header and the names. -/
theorem exists_image_eq (m : Manifest) (stop : Nat) :
    ∃ rest, m.image stop =
      m.leadBytes ++ (m.headerWords.flatMap m.wordBytes ++ (m.nameBytes ++ rest)) := by
  rw [image, frontBytes, List.rightpad]
  simp only [List.append_assoc]
  exact ⟨_, rfl⟩

/-- What lies in the lead of an image is what lies in the lead alone. -/
theorem window_lead {offset length : Nat} (h : offset + length ≤ Header.leadSize) :
    window (m.image stop) offset length = window m.leadBytes offset length := by
  obtain ⟨rest, himage⟩ := exists_image_eq m stop
  rw [himage, window_append_left (by rwa [length_leadBytes])]

/-- Each word of the header stands in its place. -/
theorem window_headerWord {i : Nat} (hi : i < m.headerWords.length) :
    window (m.image stop) (Header.leadSize + i * m.pointerSize.toNat) m.pointerSize.toNat =
      m.wordBytes m.headerWords[i] := by
  obtain ⟨rest, himage⟩ := exists_image_eq m stop
  have hmul : (i + 1) * m.pointerSize.toNat ≤ m.headerWords.length * m.pointerSize.toNat :=
    Nat.mul_le_mul_right _ hi
  rw [Nat.succ_mul] at hmul
  rw [himage, ← length_leadBytes, window_append_middle
    (by rwa [length_flatMap_of_length_eq m.length_wordBytes]),
    window_flatMap m.length_wordBytes hi]

private theorem exists_eq_takeWhile_append {name : String} {names : List String}
    (h : name ∈ names) : ∃ back, names = names.takeWhile (· ≠ name) ++ name :: back := by
  induction names with
  | nil => cases h
  | cons first names ih =>
    by_cases heq : first = name
    · subst heq
      exact ⟨names, by simp⟩
    · obtain ⟨back, hback⟩ := ih (List.mem_of_ne_of_mem (Ne.symm heq) h)
      exact ⟨back, by simpa [heq] using hback⟩

/-- A listed name stands behind the names in front of it. -/
theorem exists_nameBytes_eq {name : String} (h : name ∈ m.names) :
    ∃ front back, m.nameBytes = front ++ (terminated name ++ back) ∧
      front.length = m.nameOffset name := by
  obtain ⟨back, hback⟩ := exists_eq_takeWhile_append h
  refine ⟨_, back.flatMap terminated, ?_, rfl⟩
  rw [nameBytes, ← List.flatMap_cons, ← List.flatMap_append, ← hback]

/-- A listed name and its zero stand in the name table at its offset. -/
theorem window_nameBytes {name : String} (h : name ∈ m.names) :
    m.nameOffset name + (terminated name).length ≤ m.nameBytes.length ∧
      window m.nameBytes (m.nameOffset name) (terminated name).length = terminated name := by
  obtain ⟨front, back, hbytes, hfront⟩ := exists_nameBytes_eq h
  rw [hbytes, ← hfront]
  constructor
  · rw [List.length_append, List.length_append]
    omega
  · exact window_part front rfl rfl

/-- How many bytes stand in front of a name when names are written one after another. -/
private def placeOf (name : String) (names : List String) : Nat :=
  ((names.takeWhile (· ≠ name)).flatMap terminated).length

private theorem placeOf_self (name : String) (names : List String) :
    placeOf name (name :: names) = 0 := by
  rw [placeOf, List.takeWhile_cons_of_neg (by simp)]
  rfl

private theorem placeOf_of_ne {name first : String} (h : first ≠ name) (names : List String) :
    placeOf name (first :: names) = (terminated first).length + placeOf name names := by
  rw [placeOf, List.takeWhile_cons_of_pos (by simpa using h), List.flatMap_cons,
    List.length_append, ← placeOf]

private theorem placeOf_inj {a b : String} {names : List String} (ha : a ∈ names) (hb : b ∈ names)
    (h : placeOf a names = placeOf b names) : a = b := by
  induction names with
  | nil => cases ha
  | cons first names ih =>
    -- A name takes at least its zero, so behind the first name nothing starts where it does.
    have hpos : 0 < (terminated first).length := by
      rw [terminated, List.length_append]
      exact Nat.succ_pos _
    by_cases hfa : first = a
    · by_cases hfb : first = b
      · exact hfa.symm.trans hfb
      · subst hfa
        rw [placeOf_self, placeOf_of_ne hfb] at h
        omega
    · by_cases hfb : first = b
      · subst hfb
        rw [placeOf_of_ne hfa, placeOf_self] at h
        omega
      · rw [placeOf_of_ne hfa, placeOf_of_ne hfb] at h
        exact ih (List.mem_of_ne_of_mem (Ne.symm hfa) ha) (List.mem_of_ne_of_mem (Ne.symm hfb) hb)
          (Nat.add_left_cancel h)

/-- Names start at different places. -/
theorem nameOffset_inj {a b : String} (ha : a ∈ m.names) (hb : b ∈ m.names) :
    m.nameOffset a = m.nameOffset b ↔ a = b :=
  ⟨placeOf_inj ha hb, congrArg m.nameOffset⟩

/-- The name table starts where the header says. -/
theorem window_names {offset length : Nat} (h : offset + length ≤ m.nameBytes.length) :
    window (m.image stop) (m.nameTableOffset + offset) length =
      window m.nameBytes offset length := by
  obtain ⟨rest, himage⟩ := exists_image_eq m stop
  rw [himage, ← List.append_assoc, ← length_header, window_append_middle h]

/-- The compilation unit table stands behind the names. -/
theorem window_unitBytes (m : Manifest) (stop : Nat) :
    window (m.image stop) m.cuTableOffset m.unitBytes.length = m.unitBytes := by
  apply window_part (m.leadBytes ++ m.headerWords.flatMap m.wordBytes ++ m.nameBytes)
  · rw [image, frontBytes, List.rightpad]
    simp only [List.append_assoc]
    rfl
  · rw [List.length_append, length_header, cuTableOffset]

/-- The file table stands behind the compilation units. -/
theorem window_fileBytes (m : Manifest) (stop : Nat) :
    window (m.image stop) m.fileTableOffset m.fileBytes.length = m.fileBytes := by
  apply window_part
    (m.leadBytes ++ m.headerWords.flatMap m.wordBytes ++ m.nameBytes ++ m.unitBytes)
  · rw [image, frontBytes, List.rightpad]
    simp only [List.append_assoc]
    rfl
  · rw [List.length_append, List.length_append, length_header, fileTableOffset, cuTableOffset]

/-- A file and its zero stand in the file table behind the files in front of it. -/
theorem window_file (m : Manifest) {i : Nat} (hi : i < m.files.length) :
    ((m.files.take i).flatMap terminated).length + (terminated m.files[i]).length ≤
      m.fileBytes.length ∧
      window m.fileBytes ((m.files.take i).flatMap terminated).length
        (terminated m.files[i]).length = terminated m.files[i] := by
  have hsplit : m.fileBytes = (m.files.take i).flatMap terminated ++
      (terminated m.files[i] ++ (m.files.drop (i + 1)).flatMap terminated) := by
    rw [← List.flatMap_cons, ← List.drop_eq_getElem_cons hi, ← List.flatMap_append,
      List.take_append_drop, fileBytes]
  refine ⟨?_, window_part _ hsplit rfl⟩
  rw [hsplit, List.length_append, List.length_append]
  omega

/-- The one byte of the code position table and the padding behind it. -/
def gapBytes (m : Manifest) : List UInt8 :=
  0 :: List.replicate (m.functionTableOffset - (m.pcTableOffset + 1)) 0

/-- The gap reaches up to the function table. -/
theorem length_gapBytes (hw : IsWordSize m.pointerSize) :
    m.gapBytes.length = m.functionTableOffset - m.pcTableOffset := by
  have hpc := pcTableOffset_lt hw
  rw [gapBytes, List.length_cons, List.length_replicate]
  omega

/-- The code position table stands behind the files. -/
theorem window_gapBytes (m : Manifest) (stop : Nat) :
    window (m.image stop) m.pcTableOffset m.gapBytes.length = m.gapBytes := by
  have hfront : (m.leadBytes ++ m.headerWords.flatMap m.wordBytes ++ m.nameBytes ++ m.unitBytes ++
      m.fileBytes).length = m.pcTableOffset := by
    rw [List.length_append, List.length_append, List.length_append, length_header, pcTableOffset,
      fileTableOffset, cuTableOffset]
  apply window_part (m.leadBytes ++ m.headerWords.flatMap m.wordBytes ++ m.nameBytes ++
    m.unitBytes ++ m.fileBytes)
  · rw [image, frontBytes, List.rightpad, List.length_append, hfront]
    simp only [List.append_assoc]
    rfl
  · exact hfront.symm

/-- Each record stands in its place of the function table. -/
theorem window_row (hw : IsWordSize m.pointerSize) {i : Nat} (hi : i < (m.rows stop).length) :
    window (m.image stop) (m.functionTableOffset + i * (2 * m.pointerSize.toNat))
      (2 * m.pointerSize.toNat) = m.rowBytes (m.rows stop)[i] := by
  have hmul : (i + 1) * (2 * m.pointerSize.toNat) ≤
      (m.rows stop).length * (2 * m.pointerSize.toNat) := Nat.mul_le_mul_right _ hi
  rw [Nat.succ_mul] at hmul
  rw [image, List.append_assoc, ← length_frontBytes hw, window_append_middle
    (by rwa [length_flatMap_of_length_eq m.length_rowBytes]), window_flatMap m.length_rowBytes hi]

/-- Each descriptor stands where the metadata offset of its function leads, padding included. -/
theorem window_paddedDescriptor (hw : IsWordSize m.pointerSize) (stop : Nat) {i : Nat}
    (hi : i < m.functions.length) :
    window (m.image stop) (m.functionTableOffset + m.metadataOffset i) m.descriptorSize =
      m.paddedDescriptor m.functions[i] := by
  have hplace : m.functionTableOffset + m.metadataOffset i =
      (m.frontBytes ++ (m.rows stop).flatMap m.rowBytes).length + i * m.descriptorSize := by
    rw [List.length_append, length_frontBytes hw, length_flatMap_of_length_eq m.length_rowBytes,
      length_rows, metadataOffset, Nat.add_assoc]
  rw [image, hplace, window_append_right, window_flatMap (length_paddedDescriptor hw) hi]

/-- The used part of a descriptor. -/
theorem window_descriptor (hw : IsWordSize m.pointerSize) (stop : Nat) {i : Nat}
    (hi : i < m.functions.length) :
    window (m.image stop) (m.functionTableOffset + m.metadataOffset i) (m.pointerSize.toNat + 4) =
      m.descriptorFields m.functions[i] := by
  rw [← take_window (fields_le_descriptorSize hw), window_paddedDescriptor hw stop hi,
    paddedDescriptor, List.rightpad, ← length_descriptorFields m m.functions[i], List.take_left]

/-- A descriptor opens with the entry of its function. -/
theorem window_descriptorEntry (hw : IsWordSize m.pointerSize) (stop : Nat) {i : Nat}
    (hi : i < m.functions.length) :
    window (m.image stop) (m.functionTableOffset + m.metadataOffset i) m.pointerSize.toNat =
      m.wordBytes m.functions[i].2.toNat := by
  have hentry := window_left (m.wordBytes m.functions[i].2.toNat)
    (LittleEndian.encode 4 (m.nameOffset m.functions[i].1))
  rwa [length_wordBytes, ← descriptorFields, ← window_descriptor hw stop hi,
    window_window (by omega), Nat.add_zero] at hentry

/-- The offset of the name stands behind the entry. -/
theorem window_descriptorName (hw : IsWordSize m.pointerSize) (stop : Nat) {i : Nat}
    (hi : i < m.functions.length) :
    window (m.image stop) (m.functionTableOffset + m.metadataOffset i + m.pointerSize.toNat) 4 =
      LittleEndian.encode 4 (m.nameOffset m.functions[i].1) := by
  have hname := window_right (m.wordBytes m.functions[i].2.toNat)
    (LittleEndian.encode 4 (m.nameOffset m.functions[i].1))
  rwa [length_wordBytes, LittleEndian.length_encode, ← descriptorFields,
    ← window_descriptor hw stop hi, window_window (by omega)] at hname

/-- Behind its used part a descriptor is padded with zeros. -/
theorem window_descriptorRest (hw : IsWordSize m.pointerSize) (stop : Nat) {i offset length : Nat}
    (hi : i < m.functions.length) (hoffset : m.pointerSize.toNat + 4 ≤ offset)
    (hlength : offset + length ≤ m.descriptorSize) :
    window (m.image stop) (m.functionTableOffset + m.metadataOffset i + offset) length =
      List.replicate length 0 := by
  have hfields := length_descriptorFields m m.functions[i]
  obtain ⟨start, rfl⟩ := Nat.exists_eq_add_of_le hoffset
  rw [← window_window hlength, window_paddedDescriptor hw stop hi, paddedDescriptor, List.rightpad,
    ← hfields, window_append_right, window, List.drop_replicate, List.take_replicate]
  congr 1
  omega

end FuncMeta.Manifest
