import FuncMeta.Outcome
import FuncMeta.Proofs.Image.Naming

/-!
# Whole descriptors

A descriptor is decoded exactly when all of it lies in the region and words have four or eight
bytes. Its name offset alone needs fewer bytes. Where bytes are missing, both reads say that the
descriptor lies outside the region. Main statements: `descriptor_of_le`, `descriptor_of_lt`,
`nameOffset_of_lt` and `reads_of_any_descriptor`.
-/

namespace FuncMeta.Image

variable {t : Image} {m : UInt64} {d : Descriptor} {offset : Int32} {e : LayoutError}

/-- Where the descriptor at a metadata offset would start if the region went on forever. -/
def descriptorPlace (t : Image) (m : UInt64) : Nat :=
  t.header.functionTableOffset.toNat + m.toNat

/-- Where the bytes behind the entry of a descriptor stand, the first of them at offset zero. -/
def fieldPlace (t : Image) (m : UInt64) (offset : Nat) : Nat :=
  t.descriptorPlace m + t.header.pointerSize.toNat + offset

/-- The descriptor that the region shows at a metadata offset, behind the given entry. -/
def descriptorAt (t : Image) (m : UInt64) (entry : UInt64) : Descriptor where
  entry := ⟨entry⟩
  nameOffset := .ofNat (t.region.natAt (t.fieldPlace m 0) 4)
  args := .ofNat (t.region.natAt (t.fieldPlace m 4) 4)
  deferReturn := .ofNat (t.region.natAt (t.fieldPlace m 8) 4)
  pcsp := .ofNat (t.region.natAt (t.fieldPlace m 12) 4)
  pcfile := .ofNat (t.region.natAt (t.fieldPlace m 16) 4)
  pcln := .ofNat (t.region.natAt (t.fieldPlace m 20) 4)
  npcdata := .ofNat (t.region.natAt (t.fieldPlace m 24) 4)
  cuOffset := .ofNat (t.region.natAt (t.fieldPlace m 28) 4)
  funcId := .ofNat (t.region.natAt (t.fieldPlace m 32) 1)
  nfuncdata := .ofNat (t.region.natAt (t.fieldPlace m 35) 1)

private theorem descriptorStart_of_le {needed : Nat}
    (h : t.descriptorPlace m + needed ≤ t.region.size) :
    t.descriptorStart m.toNat needed = .ok (t.descriptorPlace m) :=
  descriptorStart_eq_ok_iff.mpr ⟨rfl, h⟩

private theorem descriptorStart_of_lt {needed : Nat}
    (h : t.region.size < t.descriptorPlace m + needed) :
    t.descriptorStart m.toNat needed =
      .error (.offsetOutOfBounds .descriptor m.toNat t.region.size) := by
  have hnone : t.descriptorOffset? m.toNat needed = none := by
    rw [Option.eq_none_iff_forall_ne_some]
    intro start hstart
    obtain ⟨rfl, hle⟩ := descriptorOffset?_eq_some_iff.mp hstart
    exact Nat.not_le.mpr h hle
  rw [descriptorStart, hnone]

/-- The name offset is not read if it or the entry before it leaves the region. -/
theorem nameOffset_of_lt
    (h : t.region.size < t.descriptorPlace m + (t.header.pointerSize.toNat + 4)) :
    t.nameOffset m = .error (.offsetOutOfBounds .descriptor m.toNat t.region.size) := by
  rw [nameOffset, descriptorStart_of_lt h, Outcome.error_bind]

/-- A descriptor is not decoded if any part of it leaves the region. -/
theorem descriptor_of_lt
    (h : t.region.size < t.descriptorPlace m + Descriptor.sizeFor t.header.pointerSize) :
    t.descriptor m = .error (.offsetOutOfBounds .descriptor m.toNat t.region.size) := by
  rw [descriptor, descriptorStart_of_lt h, Outcome.error_bind]

/-- In a descriptor that lies in the region only the entry can be unreadable, for want of a word
size. -/
theorem descriptor_eq_of_le
    (h : t.descriptorPlace m + Descriptor.sizeFor t.header.pointerSize ≤ t.region.size) :
    t.descriptor m = t.descriptorAt m <$> t.word (t.descriptorPlace m) := by
  have hsize : t.fieldPlace m 36 ≤ t.region.size := by
    rw [fieldPlace, Nat.add_assoc]
    exact h
  unfold fieldPlace at hsize
  have field (offset : Nat) (hoffset : offset ≤ 36) :
      (Word.fit (t.descriptorPlace m + t.header.pointerSize.toNat + offset) :
        Outcome LayoutError Nat) = .ok (t.fieldPlace m offset) :=
    fit_of_le_size (t := t) (by omega)
  have int32 (offset : Nat) (hoffset : offset + 4 ≤ 36) :
      t.region.readInt32 (t.fieldPlace m offset) =
        .ok (.ofNat (t.region.natAt (t.fieldPlace m offset) 4)) :=
    Region.readInt32_of_le (by unfold fieldPlace; omega)
  have uint32 (offset : Nat) (hoffset : offset + 4 ≤ 36) :
      t.region.readUInt32 (t.fieldPlace m offset) =
        .ok (.ofNat (t.region.natAt (t.fieldPlace m offset) 4)) :=
    Region.readUInt32_of_le (by unfold fieldPlace; omega)
  have uint8 (offset : Nat) (hoffset : offset + 1 ≤ 36) :
      t.region.readUInt8 (t.fieldPlace m offset) =
        .ok (.ofNat (t.region.natAt (t.fieldPlace m offset) 1)) :=
    Region.readUInt8_of_le (by unfold fieldPlace; omega)
  rw [descriptor, descriptorStart_of_le h, Outcome.ok_bind]
  simp only [field _ (by decide : 4 * 0 ≤ 36), field _ (by decide : 4 * 1 ≤ 36),
    field _ (by decide : 4 * 2 ≤ 36), field _ (by decide : 4 * 3 ≤ 36),
    field _ (by decide : 4 * 4 ≤ 36), field _ (by decide : 4 * 5 ≤ 36),
    field _ (by decide : 4 * 6 ≤ 36), field _ (by decide : 4 * 7 ≤ 36),
    field 32 (by decide), field 35 (by decide), Outcome.ok_bind,
    int32 (4 * 0) (by decide), int32 (4 * 1) (by decide), uint32 (4 * 2) (by decide),
    uint32 (4 * 3) (by decide), uint32 (4 * 4) (by decide), uint32 (4 * 5) (by decide),
    uint32 (4 * 6) (by decide), uint32 (4 * 7) (by decide), uint8 32 (by decide),
    uint8 35 (by decide), LayoutError.ofRead_ok]
  rfl

/-- A descriptor that lies in the region is decoded. -/
theorem descriptor_of_le (hw : IsWordSize t.header.pointerSize)
    (h : t.descriptorPlace m + Descriptor.sizeFor t.header.pointerSize ≤ t.region.size) :
    t.descriptor m = .ok (t.descriptorAt m (t.wordAt (t.descriptorPlace m))) := by
  have hword : t.descriptorPlace m + t.header.pointerSize.toNat ≤ t.region.size := by
    rw [Descriptor.sizeFor] at h
    omega
  rw [descriptor_eq_of_le h, word_of_le hw hword, Outcome.map_ok]

/-- Decoding a descriptor stays within the words of the machine. -/
theorem descriptor_ne_halt (t : Image) (m : UInt64) : t.descriptor m ≠ .halt := by
  by_cases h : t.descriptorPlace m + Descriptor.sizeFor t.header.pointerSize ≤ t.region.size
  · rw [descriptor_eq_of_le h]
    exact Outcome.map_ne_halt (LayoutError.ofRead_ne_halt _)
  · rw [descriptor_of_lt (Nat.not_le.mp h)]
    exact Outcome.error_ne_halt _

/-- Exactly the descriptors that lie in the region are decoded. -/
theorem descriptor_eq_ok_iff (hw : IsWordSize t.header.pointerSize) :
    t.descriptor m = .ok d ↔
      t.descriptorPlace m + Descriptor.sizeFor t.header.pointerSize ≤ t.region.size ∧
        t.descriptorAt m (t.wordAt (t.descriptorPlace m)) = d := by
  by_cases h : t.descriptorPlace m + Descriptor.sizeFor t.header.pointerSize ≤ t.region.size
  · simp only [descriptor_of_le hw h, Outcome.ok.injEq, h, true_and]
  · simp only [descriptor_of_lt (Nat.not_le.mp h), reduceCtorEq, h, false_and]

/-- The name offset is read exactly if nothing up to its end leaves the region. -/
theorem nameOffset_eq_ok_iff :
    t.nameOffset m = .ok offset ↔
      t.descriptorPlace m + (t.header.pointerSize.toNat + 4) ≤ t.region.size ∧
        .ofNat (t.region.natAt (t.fieldPlace m 0) 4) = offset := by
  by_cases h : t.descriptorPlace m + (t.header.pointerSize.toNat + 4) ≤ t.region.size
  · have hread : t.nameOffset m = .ok (.ofNat (t.region.natAt (t.fieldPlace m 0) 4)) :=
      nameOffset_of_le h
    simp only [hread, Outcome.ok.injEq, h, true_and]
  · simp only [nameOffset_of_lt (Nat.not_le.mp h), reduceCtorEq, h, false_and]

private theorem nameOffset_eq_error_iff :
    t.nameOffset m = .error e ↔
      t.region.size < t.descriptorPlace m + (t.header.pointerSize.toNat + 4) ∧
        .offsetOutOfBounds .descriptor m.toNat t.region.size = e := by
  by_cases h : t.descriptorPlace m + (t.header.pointerSize.toNat + 4) ≤ t.region.size
  · simp only [nameOffset_of_le h, reduceCtorEq, Nat.not_lt.mpr h, false_and]
  · simp only [nameOffset_of_lt (Nat.not_le.mp h), Outcome.error.injEq, Nat.not_le.mp h, true_and]

/-- What is missing of the name offset is missing of the descriptor. -/
theorem descriptor_of_nameOffset_eq_error (h : t.nameOffset m = .error e) :
    t.descriptor m = .error e := by
  obtain ⟨hlt, rfl⟩ := nameOffset_eq_error_iff.mp h
  apply descriptor_of_lt
  apply Nat.lt_of_lt_of_le hlt
  rw [Descriptor.sizeFor, Descriptor.fixedSize]
  omega

/-- The read of the name offset alone agrees with the read of the whole descriptor. It gives the
field that the descriptor holds, and where it fails decoding the descriptor fails in the same way.
The first needs four bytes behind the entry and the second 36, wherever the function table starts
and whatever the metadata offset is; neither leaves the words of the machine. -/
theorem reads_of_any_descriptor (t : Image) (hw : IsWordSize t.header.pointerSize) (m : UInt64) :
    (∀ d, t.descriptor m = .ok d → t.nameOffset m = .ok d.nameOffset) ∧
      (∀ e, t.nameOffset m = .error e → t.descriptor m = .error e) ∧
      ((∃ d, t.descriptor m = .ok d) ↔
        t.header.functionTableOffset.toNat + m.toNat + t.header.pointerSize.toNat + 36 ≤
          t.region.size) ∧
      ((∃ offset, t.nameOffset m = .ok offset) ↔
        t.header.functionTableOffset.toNat + m.toNat + t.header.pointerSize.toNat + 4 ≤
          t.region.size) ∧
      t.descriptor m ≠ .halt ∧ t.nameOffset m ≠ .halt := by
  refine ⟨?_, fun e ↦ descriptor_of_nameOffset_eq_error, ?_, ?_, descriptor_ne_halt t m,
    nameOffset_ne_halt t m⟩
  · intro d hd
    obtain ⟨hle, rfl⟩ := (descriptor_eq_ok_iff hw).mp hd
    rw [Descriptor.sizeFor, Descriptor.fixedSize] at hle
    apply nameOffset_eq_ok_iff.mpr
    exact ⟨by omega, rfl⟩
  · simp only [descriptor_eq_ok_iff hw, exists_and_left, exists_eq', and_true]
    rw [descriptorPlace, Descriptor.sizeFor, Descriptor.fixedSize, Nat.add_assoc _ _ 36]
  · simp only [nameOffset_eq_ok_iff, exists_and_left, exists_eq', and_true]
    rw [descriptorPlace, Nat.add_assoc _ _ 4]

set_option maxRecDepth 20000 in
/-- In the sample image the last descriptor is decoded. One byte further on only the name offset can
be read, and at 97 not even that. -/
theorem reads_of_any_descriptor_sample :
    let t : Image := { region := sample, header := sampleHeader }
    (∃ d, t.descriptor 64 = .ok d ∧ t.nameOffset 64 = .ok d.nameOffset) ∧
      (¬ ∃ d, t.descriptor 65 = .ok d) ∧ (∃ offset, t.nameOffset 65 = .ok offset) ∧
      t.nameOffset 97 = .error (.offsetOutOfBounds .descriptor 97 144) ∧
      t.descriptor 97 = .error (.offsetOutOfBounds .descriptor 97 144) := by
  intro t
  have hw : IsWordSize t.header.pointerSize := .inl rfl
  have hsize : t.region.size = 144 := by decide
  obtain ⟨hfield, -, hwhole, -⟩ := reads_of_any_descriptor t hw 64
  obtain ⟨-, -, hbeyond, hshort, -⟩ := reads_of_any_descriptor t hw 65
  obtain ⟨-, herror, -⟩ := reads_of_any_descriptor t hw 97
  obtain ⟨d, hd⟩ := hwhole.mpr (by rw [hsize]; decide)
  have hnone : t.nameOffset 97 = .error (.offsetOutOfBounds .descriptor 97 144) :=
    nameOffset_eq_error_iff.mpr ⟨by rw [hsize]; decide, by rw [hsize]; rfl⟩
  refine ⟨⟨d, hd, hfield d hd⟩, ?_, ?_, hnone, herror _ hnone⟩
  · rw [hbeyond, hsize]
    decide
  · rw [hshort, hsize]
    decide

end FuncMeta.Image
