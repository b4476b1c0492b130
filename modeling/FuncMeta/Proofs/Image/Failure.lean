import FuncMeta.Proofs.Image.Descriptor
import FuncMeta.Proofs.Image.Search

/-!
# Failures of decoding

Every raw read of a decoder stands behind a check of its own, so under an accepted header no read
fails: a decoder fails with the rule of the layout that is broken. The table is then truncated, the
descriptor leaves the region, or the name starts outside the table, has no zero or is no text. Main
statements: `decode_failsOnly`, `find?_failsOnly`, `descriptor_failsOnly` and `nameAt_failsOnly`.
-/

namespace FuncMeta

namespace LayoutError

/-- The error names a broken rule of the layout, in contrast to a failed read. -/
def IsDocumented (e : LayoutError) : Prop := ∀ failure, e ≠ .region failure

/-- The error says that a record of the function table does not lie in the region. -/
def IsTruncatedTable (e : LayoutError) : Prop := ∃ index count, e = .truncatedTable index count

/-- The error says that the descriptor at an offset does not lie in a region of the given size. -/
def IsDescriptorOutside (metadataOffset size : Nat) (e : LayoutError) : Prop :=
  e = .offsetOutOfBounds .descriptor metadataOffset size

/-- The error is one of the three of a name that starts at an offset of the name table. -/
def IsBadName (t : Image) (offset : Int32) (e : LayoutError) : Prop :=
  e = .invalidNameOffset offset t.nameTableSize ∨
    e = .unterminatedName (t.header.nameTableOffset.toNat + offset.toInt.toNat) ∨
    e = .invalidNameEncoding (t.header.nameTableOffset.toNat + offset.toInt.toNat)

variable {e : LayoutError}

/-- A truncated table is among the documented failures. -/
theorem IsTruncatedTable.isDocumented (h : e.IsTruncatedTable) : e.IsDocumented := by
  obtain ⟨index, count, rfl⟩ := h
  rintro failure ⟨⟩

private theorem IsDescriptorOutside.isDocumented {metadataOffset size : Nat}
    (h : e.IsDescriptorOutside metadataOffset size) : e.IsDocumented := by
  rw [IsDescriptorOutside] at h
  subst h
  rintro failure ⟨⟩

private theorem IsBadName.isDocumented {t : Image} {offset : Int32} (h : e.IsBadName t offset) :
    e.IsDocumented := by
  rcases h with rfl | rfl | rfl
  · rintro failure ⟨⟩
  · rintro failure ⟨⟩
  · rintro failure ⟨⟩

/-- Reading the bytes again would not help against a broken rule. -/
theorem IsDocumented.isIncompatible (h : e.IsDocumented) : e.isIncompatible = true := by
  cases e with
  | region failure => exact absurd rfl (h failure)
  | _ => rfl

end LayoutError

namespace Header

variable {h : Header} {kind : TableKind} {start stop regionSize : Nat}

/-- Each check of a header has an error of its own. -/
theorem decode_failsOnly {r : Region} {e : LayoutError} (hd : decode r = .error e) :
    e.IsDocumented := by
  rintro failure rfl
  rw [decode_eq] at hd
  repeat' split at hd
  all_goals cases hd

/-- The table that comes next does not start before this one. -/
theorem le_of_nextStart? (hnext : h.nextStart? kind start = some stop) : start ≤ stop := by
  rw [nextStart?, Option.orElse_eq_orElse, Option.orElse_eq_or, Option.or_eq_some_iff] at hnext
  rcases hnext with hlater | ⟨-, hany⟩
  · have hmem := List.min?_mem hlater
    exact of_decide_eq_true (List.mem_filter.mp hmem).2
  · have hmem := List.min?_mem hany
    exact Nat.le_of_lt (of_decide_eq_true (List.mem_filter.mp hmem).2)

/-- A table that starts in the region does not end before its start. -/
theorem le_tableEnd (hstart : h.offset? kind = some start) (hle : start ≤ regionSize) :
    start ≤ h.tableEnd kind regionSize := by
  rw [tableEnd, hstart, Option.bind_some]
  cases hnext : h.nextStart? kind start with
  | some stop => exact Nat.le_min.mpr ⟨le_of_nextStart? hnext, hle⟩
  | none => exact hle

end Header

namespace Region

/-- A string that starts in front of the given end in the region can only lack its zero. -/
theorem readCString_eq_error {r : Region} {offset stop : Nat} {failure : RegionError}
    (hle : offset ≤ stop) (hstop : stop ≤ r.size)
    (h : r.readCString offset stop = .error failure) :
    failure = .unterminated offset (stop - offset) := by
  rw [readCString, if_pos ⟨hle, hstop⟩] at h
  split at h
  · cases h
  · exact (Except.error.inj h).symm

end Region

namespace Image

variable {t : Image}

/-- A record under a size of words that can be read lies in the region or ends the table. -/
theorem record_failsOnly (hw : IsWordSize t.header.pointerSize) (index count : Nat) :
    (t.record index count).FailsOnly (· = .truncatedTable index count) := by
  by_cases h : t.HasRecord index
  · rw [record_of_hasRecord hw h]
    exact .ok _
  · rw [record_of_not_hasRecord h]
    exact .error rfl

/-- A record that is asked for by its index fails only by leaving the region. -/
theorem get?_failsOnly (hw : IsWordSize t.header.pointerSize) (index : Nat) :
    (t.get? index).FailsOnly (· = .truncatedTable index t.count) := by
  rw [get?]
  split
  · exact .map (record_failsOnly hw _ _)
  · exact .ok _

/-- The end of the last function fails only by leaving the region. -/
theorem endOfText_failsOnly (hw : IsWordSize t.header.pointerSize) :
    t.endOfText.FailsOnly (· = .truncatedTable t.count (Word.saturate (t.count + 1))) :=
  .map (record_failsOnly hw _ _)

/-- If the end of the last function can be read, a search finds a record or none: what the search
meets is always in order at the place where it stops. -/
theorem exists_find?_eq_ok (hw : IsWordSize t.header.pointerSize) (h : t.HasRecord t.count)
    (pc : Address) : ∃ found, t.find? pc = .ok found := by
  by_cases hout : t.count = 0 ∨ pc < t.entryAt 0 ∨ t.entryAt t.count ≤ pc
  · exact ⟨none, find?_eq_none hw h hout⟩
  · obtain ⟨hcount, hbetween⟩ := not_or.mp hout
    obtain ⟨hfirst, hlast⟩ := not_or.mp hbetween
    obtain ⟨index, -, -, -, hfound⟩ := find?_eq_some hw h hcount (Address.not_lt.mp hfirst)
      (Address.not_le.mp hlast)
    exact ⟨_, hfound⟩

/-- A search fails only at the two records that it reads before it starts. -/
theorem find?_failsOnly (hw : IsWordSize t.header.pointerSize) (pc : Address) :
    (t.find? pc).FailsOnly LayoutError.IsTruncatedTable := by
  by_cases h : t.HasRecord t.count
  · obtain ⟨found, hfound⟩ := exists_find?_eq_ok hw h pc
    rw [hfound]
    exact .ok _
  · rw [find?]
    split
    · exact .ok _
    · refine .bind ((record_failsOnly hw _ _).mono fun e he ↦ ⟨_, _, he⟩) ?_
      intro first _
      rw [endOfText, record_of_not_hasRecord h]
      exact .error ⟨_, _, rfl⟩

/-- A walk along the table fails only where the table ends too early. -/
theorem recordsFrom_failsOnly (hw : IsWordSize t.header.pointerSize) (remaining index : Nat) :
    (t.recordsFrom remaining index).2.FailsOnly LayoutError.IsTruncatedTable := by
  induction remaining generalizing index with
  | zero => exact .ok _
  | succ remaining ih =>
    rw [recordsFrom]
    cases h : t.record index t.count with
    | ok record => exact ih (index + 1)
    | error e => exact .error ⟨_, _, record_failsOnly hw _ _ e h⟩
    | halt => exact absurd h (record_ne_halt _ _ _)

/-- The name offset of a descriptor fails only by leaving the region. -/
theorem nameOffset_failsOnly (t : Image) (m : UInt64) :
    (t.nameOffset m).FailsOnly (LayoutError.IsDescriptorOutside m.toNat t.region.size) := by
  by_cases h : t.descriptorPlace m + (t.header.pointerSize.toNat + 4) ≤ t.region.size
  · rw [nameOffset_of_le h]
    exact .ok _
  · rw [nameOffset_of_lt (Nat.not_le.mp h)]
    exact .error rfl

/-- A descriptor fails only by leaving the region. -/
theorem descriptor_failsOnly (hw : IsWordSize t.header.pointerSize) (m : UInt64) :
    (t.descriptor m).FailsOnly (LayoutError.IsDescriptorOutside m.toNat t.region.size) := by
  by_cases h : t.descriptorPlace m + Descriptor.sizeFor t.header.pointerSize ≤ t.region.size
  · rw [descriptor_of_le hw h]
    exact .ok _
  · rw [descriptor_of_lt (Nat.not_le.mp h)]
    exact .error rfl

/-- Bytes between the start and the end of the name table have a zero and are a text, or fail for
the lack of one of these. -/
theorem nameFrom_failsOnly {place : Nat} {e : LayoutError} (hle : place ≤ t.nameTableEnd)
    (h : t.nameFrom place = .error e) :
    e = .unterminatedName place ∨ e = .invalidNameEncoding place := by
  rw [nameFrom] at h
  cases hread : t.region.readCString place t.nameTableEnd with
  | error failure =>
    have hfailure := Region.readCString_eq_error hle (t.header.tableEnd_le _ _) hread
    rw [hread, hfailure] at h
    exact .inl (Except.error.inj h).symm
  | ok found =>
    rw [hread] at h
    dsimp only at h
    split at h
    · cases h
    · exact .inr (Except.error.inj h).symm

/-- A name in a name table that starts in the region is found or has one of three defects. -/
theorem nameAt_failsOnly (hstart : t.header.nameTableOffset.toNat ≤ t.region.size)
    (offset : Int32) : (t.nameAt offset).FailsOnly (LayoutError.IsBadName t offset) := by
  have hend : t.header.nameTableOffset.toNat ≤ t.nameTableEnd := Header.le_tableEnd rfl hstart
  rw [nameAt]
  split
  · next h =>
    have hoffset : offset.toInt.toNat ≤ t.nameTableSize := Int.toNat_le.mpr h.2
    rw [Word.fit_of_lt (nameTableOffset_add_lt hoffset), Outcome.ok_bind]
    rw [nameTableSize] at hoffset
    intro e he
    cases hfrom : t.nameFrom (t.header.nameTableOffset.toNat + offset.toInt.toNat) with
    | ok name =>
      rw [hfrom] at he
      cases he
    | error failure =>
      rw [hfrom] at he
      cases he
      exact .inr (nameFrom_failsOnly (by omega) hfrom)
  · exact .error (.inl rfl)

/-- A name is not decoded for want of its descriptor, or for one of its own defects. -/
theorem name_failsOnly (hstart : t.header.nameTableOffset.toNat ≤ t.region.size) (m : UInt64) :
    (t.name m).FailsOnly LayoutError.IsDocumented := by
  refine .bind ((nameOffset_failsOnly t m).mono fun e he ↦ he.isDocumented) ?_
  intro offset _
  exact (nameAt_failsOnly hstart offset).mono fun e he ↦ he.isDocumented

/-- A region is no image exactly when its header is not accepted. -/
theorem ofRegion_eq_error_iff {r : Region} {e : LayoutError} :
    ofRegion r = .error e ↔ Header.decode r = .error e := by
  rw [ofRegion]
  cases Header.decode r with
  | ok header => simp only [Except.map, reduceCtorEq]
  | error failure => simp only [Except.map, Except.error.injEq]

/-- The name table of an accepted header starts in the region. -/
theorem nameTableOffset_lt_of_ofRegion {r : Region} (h : ofRegion r = .ok t) :
    t.header.nameTableOffset.toNat < t.region.size := by
  obtain ⟨rfl, hd⟩ := ofRegion_eq_ok_iff.mp h
  exact (Header.decode_eq_ok_iff.mp hd).2.offset_lt (_, _) (List.mem_cons_self ..)

end Image

namespace Cursor

/-- Every call to a cursor fails only because its next record does not lie in the region. -/
theorem next_failsOnly {c : Cursor} (hw : IsWordSize c.image.header.pointerSize) :
    c.next.1.FailsOnly (· = .truncatedTable c.index c.image.count) := by
  rw [next]
  split
  · exact .ok _
  · cases h : c.image.record c.index c.image.count with
    | ok record =>
      cases (Word.fit (c.index + 1) : Outcome LayoutError Nat) with
      | ok index => exact .ok _
      | error e => exact .halt
      | halt => exact .halt
    | error e => exact .error (Image.record_failsOnly hw _ _ e h)
    | halt => exact .halt

end Cursor

end FuncMeta
