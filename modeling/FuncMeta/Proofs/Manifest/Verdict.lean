import FuncMeta.Proofs.Image.Descriptor
import FuncMeta.Proofs.Image.Disorder
import FuncMeta.Proofs.Manifest.BuiltImage

/-!
# The audit of a built image

Whatever is built can be decoded: each descriptor lies in the image, repeats the entry of its record
and leads to a name that ends inside the name table, also if the name was cut short at a null
character. Functions keep the order of the manifest, so an audit lists exactly where their entries
descend, and the end of the last function if it lies below the last entry. Main statements:
`descriptor_eq` and `audit_of_encode`.
-/

namespace FuncMeta.Manifest

variable {m : Manifest} {stop i : Nat} {r : Region}

/-- The entries of the functions in their order. -/
def entries (m : Manifest) : List Address := m.functions.map fun f ↦ ⟨f.2⟩

/-- The descriptor of a function: its entry and where its name starts, and zeros behind. -/
def descriptorOf (m : Manifest) (f : String × UInt64) : Descriptor where
  entry := ⟨f.2⟩
  nameOffset := .ofNat (m.nameOffset f.1)
  args := 0
  deferReturn := 0
  pcsp := 0
  pcfile := 0
  pcln := 0
  npcdata := 0
  cuOffset := 0
  funcId := 0
  nfuncdata := 0

/-- The end of the last function is the one that is given, or else lies a fixed gap above the
highest entry. -/
theorem endOfText_eq (h : m.endOfText = .ok stop) :
    stop = match m.textEnd with
      | some given => given.toNat
      | none => (m.entries.map Address.toNat).max?.getD 0 + trailingSize := by
  rw [(endOfText_eq_ok_iff.mp h).1, codeEnd, entries, List.map_map]
  rfl

namespace IsHeldBy

/-- The descriptors of a built image lie at their metadata offsets from the function table. -/
theorem descriptorPlace_eq (h : m.IsHeldBy stop r) (hi : i < m.functions.length) :
    (m.imageOn r).descriptorPlace (.ofNat (m.metadataOffset i)) =
      m.functionTableOffset + m.metadataOffset i := by
  rw [Image.descriptorPlace, UInt64.toNat_ofNat_of_lt' (h.metadataOffset_lt hi)]
  exact congrArg (· + _) h.functionTableOffset_eq

/-- A descriptor opens with the entry of its function. -/
theorem wordAt_entry (h : m.IsHeldBy stop r) (hi : i < m.functions.length) :
    (m.imageOn r).wordAt (m.functionTableOffset + m.metadataOffset i) = m.functions[i].2 := by
  have hread := h.wordAt_eq (h.allHaveRoom.function hi).1 m.functions[i].2.toNat_lt
    (window_descriptorEntry h.isWordSize stop hi)
  rwa [UInt64.ofNat_toNat] at hread

/-- What stands behind the entry of a descriptor. -/
theorem natAt_fieldPlace (h : m.IsHeldBy stop r) (hi : i < m.functions.length)
    (offset width : Nat) :
    (m.imageOn r).region.natAt
      ((m.imageOn r).fieldPlace (.ofNat (m.metadataOffset i)) offset) width =
      LittleEndian.decode (window (m.image stop)
        (m.functionTableOffset + m.metadataOffset i + (m.pointerSize.toNat + offset)) width) := by
  rw [Image.fieldPlace, h.descriptorPlace_eq hi, Nat.add_assoc, ← h.toList_eq]
  rfl

/-- Behind the offset of the name all fields of a descriptor are zero. -/
theorem natAt_fieldPlace_rest (h : m.IsHeldBy stop r) (hi : i < m.functions.length)
    {offset width : Nat} (hoffset : 4 ≤ offset) (hle : offset + width ≤ Descriptor.fixedSize) :
    (m.imageOn r).region.natAt
      ((m.imageOn r).fieldPlace (.ofNat (m.metadataOffset i)) offset) width = 0 := by
  have hsize := sizeFor_le_descriptorSize h.isWordSize
  rw [Descriptor.sizeFor] at hsize
  rw [h.natAt_fieldPlace hi, window_descriptorRest h.isWordSize stop hi (by omega) (by omega),
    LittleEndian.decode_replicate_zero]

/-- A descriptor of the image is the one of its function. -/
theorem descriptor_eq (h : m.IsHeldBy stop r) (hi : i < m.functions.length) :
    (m.imageOn r).descriptor (.ofNat (m.metadataOffset i)) =
      .ok (m.descriptorOf m.functions[i]) := by
  have hname : Int32.ofNat ((m.imageOn r).region.natAt
      ((m.imageOn r).fieldPlace (.ofNat (m.metadataOffset i)) 0) 4) =
        Int32.ofNat (m.nameOffset m.functions[i].1) := by
    rw [h.natAt_fieldPlace hi, Nat.add_zero, window_descriptorName h.isWordSize stop hi,
      LittleEndian.decode_encode, int32_ofNat_mod]
  have rest (offset width : Nat) (hoffset : 4 ≤ offset) (hle : offset + width ≤ 36) :=
    h.natAt_fieldPlace_rest hi hoffset hle
  have hle : (m.imageOn r).descriptorPlace (.ofNat (m.metadataOffset i)) +
      Descriptor.sizeFor m.pointerSize ≤ r.size := by
    rw [h.descriptorPlace_eq hi]
    exact Nat.le_trans (Nat.add_le_add_left (sizeFor_le_descriptorSize h.isWordSize) _)
      (h.descriptorEnd_le hi)
  rw [Image.descriptor_of_le h.isWordSize hle, h.descriptorPlace_eq hi, h.wordAt_entry hi,
    descriptorOf, ← hname, Image.descriptorAt, rest 4 4 (by decide) (by decide),
    rest 8 4 (by decide) (by decide), rest 12 4 (by decide) (by decide),
    rest 16 4 (by decide) (by decide), rest 20 4 (by decide) (by decide),
    rest 24 4 (by decide) (by decide), rest 28 4 (by decide) (by decide),
    rest 32 1 (by decide) (by decide), rest 35 1 (by decide) (by decide)]
  rfl

/-- Whatever is built can be decoded. -/
theorem isDecodable (h : m.IsHeldBy stop r) (hnames : m.nameBytes.length < 0x80000000) :
    (m.imageOn r).IsDecodable where
  isWordSize := h.isWordSize
  hasRecord := h.hasRecord (Nat.le_of_eq h.count_eq)
  descriptor := by
    intro i hi
    rw [h.count_eq] at hi
    rw [Image.entryAt, h.recordAt_eq hi]
    exact ⟨_, h.descriptor_eq hi, rfl⟩
  name := by
    intro i hi
    rw [h.count_eq] at hi
    rw [h.recordAt_eq hi]
    exact ⟨_, h.name_eq_beforeNull hi hnames⟩

/-- The entries of the image are those of the manifest. -/
theorem entries_eq (h : m.IsHeldBy stop r) : (m.imageOn r).entries = m.entries := by
  rw [Image.entries, h.count_eq, entries]
  apply List.ext_getElem
  · rw [List.length_map, List.length_range, List.length_map]
  · intro i hi _
    rw [List.length_map, List.length_range] at hi
    rw [List.getElem_map, List.getElem_range, Image.entryAt, h.recordAt_eq hi, List.getElem_map]

end IsHeldBy

/-- An audit of what is built reads all functions. It lists the entries that lie below the ones in
front of them, in their order, and then the end of the last function if it lies below the last
entry, and nothing else. So it is clean exactly when the entries are in order and the last one does
not lie above that end, which is the one given or else lies a fixed gap above the highest entry. -/
theorem audit_of_encode {bytes : List UInt8} (h : m.encode = .ok bytes) (hr : r.toList = bytes)
    (hnames : m.nameBytes.length < 0x80000000) :
    ∃ (a : Audit) (sentinel : Address), r.audit = .ok a ∧
      (sentinel.toNat = match m.textEnd with
        | some given => given.toNat
        | none => (m.entries.map Address.toNat).max?.getD 0 + trailingSize) ∧
      a.checked = m.functions.length ∧
      a.issues = descents m.entries ++ endIssues sentinel m.entries ∧
      (∀ issue ∈ a.issues,
        (∃ index before entry, issue = .unordered index before entry) ∨
          ∃ last, issue = .sentinelBeforeLastEntry sentinel last) ∧
      (a.isClean = true ↔ m.entries.Pairwise (· ≤ ·) ∧
        ∀ last, m.entries.getLast? = some last → last ≤ sentinel) := by
  obtain ⟨stop, hstop, hheld⟩ := exists_isHeldBy h hr
  have haudit := (hheld.isDecodable hnames).audit_eq
  rw [hheld.count_eq, hheld.entryAt_length, hheld.entries_eq] at haudit
  rw [← Region.audit_of_ofRegion hheld.ofRegion_eq] at haudit
  refine ⟨_, ⟨.ofNat stop⟩, haudit, ?_, rfl, rfl, ?_, ?_⟩
  · rw [← endOfText_eq hstop]
    exact UInt64.toNat_ofNat_of_lt' hheld.stop_lt
  · intro issue hissue
    rcases List.mem_append.mp hissue with hissue | hissue
    · obtain ⟨i, _, _, rfl⟩ := mem_descents_iff.mp hissue
      exact .inl ⟨_, _, _, rfl⟩
    · obtain ⟨last, _, _, rfl⟩ := mem_endIssues_iff.mp hissue
      exact .inr ⟨last, rfl⟩
  · show List.isEmpty _ = true ↔ _
    rw [List.isEmpty_iff, List.append_eq_nil_iff, descents, descentsFrom_eq_nil_iff,
      endIssues_eq_nil_iff]

/-- A manifest whose functions are not in order and end too early. The name of the first function
goes on behind a null character. -/
def disorderedManifest : Manifest where
  pointerSize := 8
  functions := [("g\x00h", 0x2000), ("f", 0x1000)]
  textEnd := some 0x800

/-- The image of that manifest. -/
def disorderedBytes : List UInt8 :=
  [0xfa, 0xff, 0xff, 0xff, 0, 0, 1, 8] ++
    [2, 0, 64, 70, 70, 70, 72].flatMap (LittleEndian.encode 8) ++
    [0x67, 0, 0x68, 0, 0x66, 0, 0, 0] ++
    [0x2000, 48, 0x1000, 96, 0x800, 0].flatMap (LittleEndian.encode 8) ++
    LittleEndian.encode 8 0x2000 ++ List.replicate 40 0 ++
    LittleEndian.encode 8 0x1000 ++ LittleEndian.encode 4 4 ++ List.replicate 36 0

set_option maxRecDepth 20000 in
/-- An audit of that image reports the entry that descends and the end below it. -/
theorem audit_of_encode_disordered :
    disorderedManifest.encode = .ok disorderedBytes ∧
      ∃ (r : Region) (a : Audit), r.toList = disorderedBytes ∧ r.audit = .ok a ∧ a.checked = 2 ∧
        a.issues = [.unordered 1 ⟨0x2000⟩ ⟨0x1000⟩, .sentinelBeforeLastEntry ⟨0x800⟩ ⟨0x1000⟩] := by
  have hencode : disorderedManifest.encode = .ok disorderedBytes := by rfl
  let r : Region := { bytes := ⟨disorderedBytes.toArray⟩, size_lt := by decide }
  obtain ⟨a, sentinel, haudit, hsentinel, hchecked, hissues, -⟩ :=
    audit_of_encode (r := r) hencode rfl (by decide)
  obtain rfl : sentinel = ⟨0x800⟩ := Address.toNat_inj.mp hsentinel
  refine ⟨hencode, r, a, rfl, haudit, hchecked, ?_⟩
  rw [hissues]
  decide

end FuncMeta.Manifest
