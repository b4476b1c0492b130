import FuncMeta.Image.Record
import FuncMeta.Proofs.Image.Table

/-!
# Descriptors and names

What the short read of a descriptor shows, where the name table ends, and which bytes make a name.
None of it leaves the words of the machine. Main statements: `nameOffset_of_le`,
`nameAt_of_window` and `name_ne_halt`.
-/

namespace FuncMeta

namespace Header

/-- Of tables that are declared in the order of their starts the first one is next. -/
theorem nextStart?_of_sorted {h : Header} {kind : TableKind} {start first : Nat} {rest : List Nat}
    (hlater : kind.later.filterMap h.offset? = first :: rest) (hstart : start ≤ first)
    (hrest : ∀ other ∈ rest, first ≤ other) : h.nextStart? kind start = some first := by
  have hall : ∀ other ∈ first :: rest, start ≤ other :=
    List.forall_mem_cons.mpr ⟨hstart, fun other hother ↦ Nat.le_trans hstart (hrest other hother)⟩
  have hfilter : (first :: rest).filter (start ≤ ·) = first :: rest :=
    List.filter_eq_self.mpr fun other hother ↦ decide_eq_true (hall other hother)
  have hmin : (first :: rest).min? = some first := List.min?_eq_some_iff.mpr
    ⟨List.mem_cons_self, List.forall_mem_cons.mpr ⟨Nat.le_refl _, hrest⟩⟩
  rw [nextStart?, hlater, hfilter, hmin]
  rfl

/-- A table ends where the next one starts, or else where the region ends. -/
theorem tableEnd_of_nextStart? {h : Header} {kind : TableKind} {start stop : Nat} (regionSize : Nat)
    (hstart : h.offset? kind = some start) (hnext : h.nextStart? kind start = some stop) :
    h.tableEnd kind regionSize = min stop regionSize := by
  rw [tableEnd, hstart, Option.bind_some, hnext]

/-- No table ends beyond the region. -/
theorem tableEnd_le (h : Header) (kind : TableKind) (regionSize : Nat) :
    h.tableEnd kind regionSize ≤ regionSize := by
  unfold tableEnd
  split
  · exact Nat.min_le_right ..
  · exact Nat.le_refl _

end Header

namespace Image

variable {t : Image} {metadataOffset : Nat} {needed start : Nat}

/-- A descriptor starts at its offset from the function table, and lies in the region as far as it
is needed. -/
theorem descriptorOffset?_eq_some_iff :
    t.descriptorOffset? metadataOffset needed = some start ↔
      t.header.functionTableOffset.toNat + metadataOffset = start ∧
        start + needed ≤ t.region.size := by
  have hsize := t.region.size_lt_limit
  unfold descriptorOffset?
  simp only [Option.bind_eq_bind, Option.bind_eq_some_iff, Word.add?_eq_some_iff]
  constructor
  · rintro ⟨_, ⟨-, rfl⟩, _, ⟨-, rfl⟩, h⟩
    split at h
    · next hle => exact ⟨Option.some.inj h, by rwa [← Option.some.inj h]⟩
    · cases h
  · rintro ⟨rfl, hle⟩
    exact ⟨_, ⟨by omega, rfl⟩, _, ⟨by omega, rfl⟩, if_pos hle⟩

/-- A descriptor starts behind the start of the function table by its metadata offset, if the bytes
needed lie in the region. -/
theorem descriptorStart_eq_ok_iff :
    t.descriptorStart metadataOffset needed = .ok start ↔
      t.header.functionTableOffset.toNat + metadataOffset = start ∧
        start + needed ≤ t.region.size := by
  rw [← descriptorOffset?_eq_some_iff, descriptorStart]
  cases t.descriptorOffset? metadataOffset needed with
  | some start => simp only [Outcome.ok.injEq, Option.some.injEq]
  | none => simp only [reduceCtorEq]

/-- Finding the start of a descriptor does not halt. -/
theorem descriptorStart_ne_halt (t : Image) (metadataOffset needed : Nat) :
    t.descriptorStart metadataOffset needed ≠ .halt := by
  rw [descriptorStart]
  split
  · exact nofun
  · exact nofun

/-- The name offset is read if it and the entry before it lie in the region. -/
theorem nameOffset_of_le {m : UInt64}
    (h : t.header.functionTableOffset.toNat + m.toNat + (t.header.pointerSize.toNat + 4) ≤
      t.region.size) :
    t.nameOffset m = .ok (Int32.ofNat (t.region.natAt
      (t.header.functionTableOffset.toNat + m.toNat + t.header.pointerSize.toNat) 4)) := by
  have hstart : t.descriptorStart m.toNat (t.header.pointerSize.toNat + 4) =
      .ok (t.header.functionTableOffset.toNat + m.toNat) := descriptorStart_eq_ok_iff.mpr ⟨rfl, h⟩
  rw [nameOffset, hstart, Outcome.ok_bind, fit_of_le_size (t := t) (by omega), Outcome.ok_bind,
    Region.readInt32_of_le (by omega), LayoutError.ofRead_ok]

/-- Reading the name offset of a descriptor does not halt. -/
theorem nameOffset_ne_halt (t : Image) (m : UInt64) : t.nameOffset m ≠ .halt := by
  rw [nameOffset]
  intro h
  rcases Outcome.bind_eq_halt_iff.mp h with h | ⟨start, hstart, h⟩
  · exact descriptorStart_ne_halt _ _ _ h
  · have hle := (descriptorStart_eq_ok_iff.mp hstart).2
    rw [fit_of_le_size (t := t) (by omega), Outcome.ok_bind] at h
    exact LayoutError.ofRead_ne_halt _ h

/-- A name in the name table starts at a word of the machine. -/
theorem nameTableOffset_add_lt {offset : Nat} (h : offset ≤ t.nameTableSize) :
    t.header.nameTableOffset.toNat + offset < Word.limit := by
  have hstart := t.header.nameTableOffset.toNat_lt
  have hend := t.header.tableEnd_le .functionName t.region.size
  have hsize := t.region.size_lt_limit
  unfold nameTableSize nameTableEnd at h
  by_cases hle : t.header.nameTableOffset.toNat ≤ t.header.tableEnd .functionName t.region.size
  · omega
  · exact Nat.lt_of_le_of_lt (by omega) hstart

/-- Reading a name by its offset does not halt. -/
theorem nameAt_ne_halt (t : Image) (offset : Int32) : t.nameAt offset ≠ .halt := by
  rw [nameAt]
  split
  · next h =>
    rw [Word.fit_of_lt (nameTableOffset_add_lt (Int.toNat_le.mpr h.2)), Outcome.ok_bind]
    exact Outcome.ofExcept_ne_halt _
  · exact nofun

/-- Reading a name stays within the words of the machine. -/
theorem name_ne_halt (t : Image) (m : UInt64) : t.name m ≠ .halt := by
  rw [name]
  intro h
  rcases Outcome.bind_eq_halt_iff.mp h with h | ⟨offset, -, h⟩
  · exact nameOffset_ne_halt _ _ h
  · exact nameAt_ne_halt _ _ h

/-- A name is what stands in front of the first zero, if that is UTF-8. -/
theorem nameFrom_eq_ok_iff {place : Nat} {name : String} :
    t.nameFrom place = .ok name ↔
      ∃ found, t.region.readCString place t.nameTableEnd = .ok found ∧
        String.fromUTF8? found.bytes = some name := by
  rw [nameFrom]
  cases t.region.readCString place t.nameTableEnd with
  | error failure => cases failure <;> simp
  | ok found =>
    simp only [Except.ok.injEq, exists_eq_left']
    cases String.fromUTF8? found.bytes with
    | some text => simp
    | none => simp

/-- The bytes of a text are read back as that text. -/
theorem fromUTF8?_toByteArray (text : String) : String.fromUTF8? text.toByteArray = some text := by
  rw [String.fromUTF8?, dif_pos text.isValidUTF8]
  rfl

/-- A text without a zero that stands in the name table with a zero behind it is a name. -/
theorem nameAt_of_window {offset : Int32} {text : String} (hpos : 0 ≤ offset.toInt)
    (hz : 0 ∉ text.toByteArray.data.toList)
    (hw : window t.region.toList (t.header.nameTableOffset.toNat + offset.toInt.toNat)
      (text.toByteArray.data.toList.length + 1) = text.toByteArray.data.toList ++ [0])
    (hlt : t.header.nameTableOffset.toNat + offset.toInt.toNat +
      text.toByteArray.data.toList.length < t.nameTableEnd) :
    t.nameAt offset = .ok text := by
  have hsize : offset.toInt.toNat ≤ t.nameTableSize := by
    unfold nameTableSize
    omega
  obtain ⟨found, hread, hfound⟩ := Region.readCString_of_window hz hw hlt
    (t.header.tableEnd_le .functionName t.region.size)
  have hbytes : found.bytes = text.toByteArray := ByteArray.ext (Array.toList_inj.mp hfound)
  rw [nameAt, if_pos ⟨hpos, Int.toNat_le.mp hsize⟩, Word.fit_of_lt (nameTableOffset_add_lt hsize),
    Outcome.ok_bind,
    nameFrom_eq_ok_iff.mpr ⟨found, hread, by rw [hbytes, fromUTF8?_toByteArray]⟩,
    Outcome.ofExcept_ok]

end Image

end FuncMeta
