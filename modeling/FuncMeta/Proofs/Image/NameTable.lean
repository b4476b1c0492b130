import FuncMeta.Proofs.Image.Failure

/-!
# Names inside the name table

Which of its outcomes the reading of a name has is decided by the offset, by the first zero in the
name table behind it, and by the bytes in front of that zero. Nothing outside the name table is
looked at, not even where the next table goes on with a zero. Main statements: `nameAt_of_outside`,
`nameAt_of_nonzero`, `nameAt_of_firstZero` and `nameAt_of_any_offset`.
-/

namespace FuncMeta

namespace FirstZero

variable {bs cs : List UInt8} {offset stop place : Nat}

/-- Wherever there is a zero there is a first one. -/
theorem exists_of_zero (hle : offset ≤ place) (hz : bs[place]? = some 0) :
    ∃ first ≤ place, FirstZero bs offset first := by
  induction place using Nat.strongRecOn with
  | ind place ih =>
    by_cases hearlier : ∃ i, offset ≤ i ∧ i < place ∧ bs[i]? = some 0
    · obtain ⟨i, hi, hlt, hzero⟩ := hearlier
      obtain ⟨first, hfirst, h⟩ := ih i hlt hi hzero
      exact ⟨first, Nat.le_trans hfirst (Nat.le_of_lt hlt), h⟩
    · exact ⟨place, Nat.le_refl _, hle, hz, fun i hi hlt hzero ↦ hearlier ⟨i, hi, hlt, hzero⟩⟩

/-- In a part of a byte list there is a first zero, or there is none at all. -/
theorem exists_or_nonzero (bs : List UInt8) (offset stop : Nat) :
    (∃ place < stop, FirstZero bs offset place) ∨
      ∀ place, offset ≤ place → place < stop → bs[place]? ≠ some 0 := by
  by_cases h : ∃ place, offset ≤ place ∧ place < stop ∧ bs[place]? = some 0
  · obtain ⟨place, hle, hlt, hz⟩ := h
    obtain ⟨first, hfirst, hzero⟩ := exists_of_zero hle hz
    exact .inl ⟨first, Nat.lt_of_le_of_lt hfirst hlt, hzero⟩
  · exact .inr fun place hle hlt hz ↦ h ⟨place, hle, hlt, hz⟩

/-- The bytes in front of the first zero hold none. -/
theorem zero_notMem_window (h : FirstZero bs offset place) :
    0 ∉ window bs offset (place - offset) := by
  intro hmem
  obtain ⟨i, hi⟩ := List.mem_iff_getElem?.mp hmem
  have hlt : i < place - offset := by
    have hlength := (List.getElem?_eq_some_iff.mp hi).1
    rw [length_window] at hlength
    omega
  rw [getElem?_window hlt] at hi
  exact h.nonzero (offset + i) (Nat.le_add_right ..) (by omega) hi

/-- The first zero depends on the bytes up to it. -/
theorem congr (h : FirstZero bs offset place)
    (heq : ∀ i, offset ≤ i → i ≤ place → cs[i]? = bs[i]?) : FirstZero cs offset place where
  le := h.le
  zero := by rw [heq place h.le (Nat.le_refl _), h.zero]
  nonzero := by
    intro i hle hlt
    rw [heq i hle (Nat.le_of_lt hlt)]
    exact h.nonzero i hle hlt

end FirstZero

/-- Byte lists show the same window exactly when they agree at each place of it. -/
theorem window_eq_iff {bs cs : List UInt8} {start length : Nat} :
    window cs start length = window bs start length ↔
      ∀ i, start ≤ i → i < start + length → cs[i]? = bs[i]? := by
  constructor
  · intro h i hle hlt
    have hin : i - start < length := by omega
    rw [← Nat.add_sub_cancel' hle, ← getElem?_window hin, h, getElem?_window hin]
  · intro h
    apply List.ext_getElem?
    intro i
    by_cases hin : i < length
    · rw [getElem?_window hin, getElem?_window hin]
      exact h (start + i) (Nat.le_add_right ..) (Nat.add_lt_add_left hin _)
    · have hout (ds : List UInt8) : (window ds start length)[i]? = none := by
        rw [List.getElem?_eq_none_iff, length_window]
        omega
      rw [hout, hout]

namespace Region

variable {r : Region} {offset stop place : Nat}

private theorem readCString_of_firstZero (h : FirstZero r.toList offset place) (hlt : place < stop)
    (hstop : stop ≤ r.size) : r.readCString offset stop = .ok (r.extract offset place) :=
  readCString_eq_ok_iff.mpr ⟨hstop, place, hlt, h, rfl⟩

/-- Without a zero in front of the given end no string is read. -/
theorem readCString_of_nonzero (hle : offset ≤ stop) (hstop : stop ≤ r.size)
    (h : ∀ place, offset ≤ place → place < stop → r.toList[place]? ≠ some 0) :
    r.readCString offset stop = .error (.unterminated offset (stop - offset)) := by
  cases hread : r.readCString offset stop with
  | ok found =>
    obtain ⟨-, place, hlt, hfirst, -⟩ := readCString_eq_ok_iff.mp hread
    exact absurd hfirst.zero (h place hfirst.le hlt)
  | error failure => rw [readCString_eq_error hle hstop hread]

end Region

/-- The text that some bytes are, which were found at a place. -/
def textAt (place : Nat) (bytes : List UInt8) : Except LayoutError String :=
  match String.fromUTF8? bytes.toByteArray with
  | some name => .ok name
  | none => .error (.invalidNameEncoding place)

section

variable {place : Nat} {bytes : List UInt8} {name : String} {e : LayoutError}

private theorem textAt_of_isValidUTF8 (h : bytes.toByteArray.IsValidUTF8) :
    textAt place bytes = .ok (String.ofByteArray bytes.toByteArray h) := by
  rw [textAt, String.fromUTF8?, dif_pos h]
  rfl

private theorem textAt_of_not_isValidUTF8 (h : ¬ bytes.toByteArray.IsValidUTF8) :
    textAt place bytes = .error (.invalidNameEncoding place) := by
  rw [textAt, String.fromUTF8?, dif_neg h]

private theorem exists_textAt_eq_ok_iff :
    (∃ name, textAt place bytes = .ok name) ↔ bytes.toByteArray.IsValidUTF8 := by
  by_cases h : bytes.toByteArray.IsValidUTF8
  · simp [textAt_of_isValidUTF8 h, h]
  · simp [textAt_of_not_isValidUTF8 h, h]

private theorem textAt_eq_error_iff :
    textAt place bytes = .error e ↔
      ¬ bytes.toByteArray.IsValidUTF8 ∧ .invalidNameEncoding place = e := by
  by_cases h : bytes.toByteArray.IsValidUTF8
  · simp [textAt_of_isValidUTF8 h, h]
  · simp [textAt_of_not_isValidUTF8 h, h]

/-- Bytes are a text exactly when they are its bytes. -/
theorem textAt_eq_ok_iff :
    textAt place bytes = .ok name ↔ name.toByteArray.data.toList = bytes := by
  constructor
  · intro h
    have hvalid := exists_textAt_eq_ok_iff.mp ⟨name, h⟩
    rw [textAt_of_isValidUTF8 hvalid] at h
    cases h
    exact congrArg Array.toList List.data_toByteArray
  · intro h
    have hbytes : bytes.toByteArray = name.toByteArray := by
      apply ByteArray.ext
      rw [List.data_toByteArray, ← h, Array.toArray_toList]
    rw [textAt, hbytes, Image.fromUTF8?_toByteArray]

end

namespace Image

variable {t u : Image} {offset : Int32} {place start : Nat} {name : String}

/-- An offset in front of the name table or behind its end is refused. -/
theorem nameAt_of_outside (h : offset.toInt < 0 ∨ (t.nameTableSize : Int) < offset.toInt) :
    t.nameAt offset = .error (.invalidNameOffset offset t.nameTableSize) := by
  rw [nameAt, if_neg (by omega)]

/-- Where the name with an offset from the start of the name table starts. -/
def namePlace (t : Image) (offset : Int32) : Nat :=
  t.header.nameTableOffset.toNat + offset.toInt.toNat

/-- An offset into the name table leads to a place in it or to its end. -/
theorem namePlace_le (hstart : t.header.nameTableOffset.toNat ≤ t.nameTableEnd)
    (hle : offset.toInt ≤ t.nameTableSize) : t.namePlace offset ≤ t.nameTableEnd := by
  unfold namePlace nameTableSize at *
  omega

private theorem nameAt_of_inside (hpos : 0 ≤ offset.toInt) (hle : offset.toInt ≤ t.nameTableSize) :
    t.nameAt offset = .ofExcept (t.nameFrom (t.namePlace offset)) := by
  rw [nameAt, if_pos ⟨hpos, hle⟩, Word.fit_of_lt (nameTableOffset_add_lt (Int.toNat_le.mpr hle)),
    Outcome.ok_bind, namePlace]

private theorem nameFrom_of_nonzero (hle : start ≤ t.nameTableEnd)
    (h : ∀ place, start ≤ place → place < t.nameTableEnd → t.region.toList[place]? ≠ some 0) :
    t.nameFrom start = .error (.unterminatedName start) := by
  rw [nameFrom, Region.readCString_of_nonzero hle (t.header.tableEnd_le _ _) h]

private theorem nameFrom_of_firstZero (h : FirstZero t.region.toList start place)
    (hlt : place < t.nameTableEnd) :
    t.nameFrom start = textAt start (window t.region.toList start (place - start)) := by
  have hbytes : (t.region.extract start place).bytes =
      (window t.region.toList start (place - start)).toByteArray := by
    apply ByteArray.ext
    apply Array.toList_inj.mp
    rw [List.data_toByteArray]
    exact t.region.toList_extract start place
  rw [nameFrom, Region.readCString_of_firstZero h hlt (t.header.tableEnd_le _ _)]
  dsimp only
  rw [hbytes]
  rfl

section

variable (hpos : 0 ≤ offset.toInt) (hle : offset.toInt ≤ t.nameTableSize)

include hpos hle

/-- Without a zero up to the end of the name table there is no name. -/
theorem nameAt_of_nonzero (hstart : t.header.nameTableOffset.toNat ≤ t.nameTableEnd)
    (h : ∀ place, t.namePlace offset ≤ place → place < t.nameTableEnd →
      t.region.toList[place]? ≠ some 0) :
    t.nameAt offset = .error (.unterminatedName (t.namePlace offset)) := by
  rw [nameAt_of_inside hpos hle, nameFrom_of_nonzero (namePlace_le hstart hle) h,
    Outcome.ofExcept_error]

/-- What stands in front of the first zero is the name, if it is a text. -/
theorem nameAt_of_firstZero (h : FirstZero t.region.toList (t.namePlace offset) place)
    (hlt : place < t.nameTableEnd) :
    t.nameAt offset = .ofExcept (textAt (t.namePlace offset)
      (window t.region.toList (t.namePlace offset) (place - t.namePlace offset))) := by
  rw [nameAt_of_inside hpos hle, nameFrom_of_firstZero h hlt]

end

/-- A name that is read stands in the name table, and in front of a zero in it. -/
theorem exists_firstZero_of_nameAt (h : t.nameAt offset = .ok name) :
    0 ≤ offset.toInt ∧ offset.toInt ≤ t.nameTableSize ∧
      ∃ place < t.nameTableEnd, FirstZero t.region.toList (t.namePlace offset) place ∧
        name.toByteArray.data.toList =
          window t.region.toList (t.namePlace offset) (place - t.namePlace offset) := by
  by_cases hin : 0 ≤ offset.toInt ∧ offset.toInt ≤ t.nameTableSize
  · refine ⟨hin.1, hin.2, ?_⟩
    rw [nameAt_of_inside hin.1 hin.2] at h
    cases hfrom : t.nameFrom (t.namePlace offset) with
    | error e =>
      rw [hfrom] at h
      cases h
    | ok found =>
      rw [hfrom] at h
      cases h
      obtain ⟨_, hread, -⟩ := nameFrom_eq_ok_iff.mp hfrom
      obtain ⟨-, place, hlt, hfirst, -⟩ := Region.readCString_eq_ok_iff.mp hread
      rw [nameFrom_of_firstZero hfirst hlt, textAt_eq_ok_iff] at hfrom
      exact ⟨place, hlt, hfirst, hfrom⟩
  · rw [nameAt_of_outside (by omega)] at h
    cases h

/-- What is read from a place depends on the bytes from there to the end of the name table. -/
theorem nameFrom_congr (hend : u.nameTableEnd = t.nameTableEnd) (hstart : start ≤ t.nameTableEnd)
    (hagree : ∀ i, start ≤ i → i < t.nameTableEnd → u.region.toList[i]? = t.region.toList[i]?) :
    u.nameFrom start = t.nameFrom start := by
  rcases FirstZero.exists_or_nonzero t.region.toList start t.nameTableEnd with
    ⟨place, hlt, hfirst⟩ | hnonzero
  · have hother : FirstZero u.region.toList start place :=
      hfirst.congr fun i hi hip ↦ hagree i hi (Nat.lt_of_le_of_lt hip hlt)
    have hwindow : window u.region.toList start (place - start) =
        window t.region.toList start (place - start) :=
      window_eq_iff.mpr fun i hi hip ↦ hagree i hi (by omega)
    rw [nameFrom_of_firstZero hfirst hlt, nameFrom_of_firstZero hother (by rwa [hend]), hwindow]
  · rw [nameFrom_of_nonzero hstart hnonzero, nameFrom_of_nonzero (by rwa [hend])]
    intro i hi hlt
    rw [hend] at hlt
    rw [hagree i hi hlt]
    exact hnonzero i hi hlt

/-- The outcome depends on the size of the region, on its header and on the bytes of the name table
alone. -/
theorem nameAt_congr (hstart : t.header.nameTableOffset.toNat ≤ t.nameTableEnd)
    (hsize : u.region.size = t.region.size) (hheader : u.header = t.header)
    (hbytes : window u.region.toList t.header.nameTableOffset.toNat t.nameTableSize =
      window t.region.toList t.header.nameTableOffset.toNat t.nameTableSize) (offset : Int32) :
    u.nameAt offset = t.nameAt offset := by
  have hend : u.nameTableEnd = t.nameTableEnd := by
    rw [nameTableEnd, nameTableEnd, hsize, hheader]
  have hlength : u.nameTableSize = t.nameTableSize := by
    rw [nameTableSize, nameTableSize, hend, hheader]
  have hplace : u.namePlace offset = t.namePlace offset := by
    rw [namePlace, namePlace, hheader]
  by_cases hin : 0 ≤ offset.toInt ∧ offset.toInt ≤ t.nameTableSize
  · have hin' : 0 ≤ offset.toInt ∧ offset.toInt ≤ u.nameTableSize := by rwa [hlength]
    rw [nameAt_of_inside hin.1 hin.2, nameAt_of_inside hin'.1 hin'.2, hplace,
      nameFrom_congr hend (namePlace_le hstart hin.2)]
    intro i hi hlt
    apply window_eq_iff.mp hbytes i (Nat.le_trans (Nat.le_add_right ..) hi)
    rw [nameTableSize]
    omega
  · rw [nameAt_of_outside (by omega), nameAt_of_outside (by omega), hlength]

section

variable (hstart : t.header.nameTableOffset.toNat ≤ t.nameTableEnd)

include hstart

/-- An offset is refused exactly if it does not lead into the name table or to its end. -/
theorem nameAt_eq_invalidNameOffset_iff :
    t.nameAt offset = .error (.invalidNameOffset offset t.nameTableSize) ↔
      offset.toInt < 0 ∨ (t.nameTableSize : Int) < offset.toInt := by
  refine ⟨?_, nameAt_of_outside⟩
  intro hrefused
  apply Decidable.byContradiction
  intro hin
  have hpos : 0 ≤ offset.toInt := by omega
  have hle : offset.toInt ≤ t.nameTableSize := by omega
  rcases FirstZero.exists_or_nonzero t.region.toList (t.namePlace offset) t.nameTableEnd with
    ⟨place, hlt, hfirst⟩ | hnonzero
  · rw [nameAt_of_firstZero hpos hle hfirst hlt, Outcome.ofExcept_eq_error_iff,
      textAt_eq_error_iff] at hrefused
    cases hrefused.2
  · rw [nameAt_of_nonzero hpos hle hstart hnonzero] at hrefused
    cases hrefused

/-- A zero is missing exactly if there is none between the start of the name and the end of the name
table. -/
theorem nameAt_eq_unterminatedName_iff (hpos : 0 ≤ offset.toInt)
    (hle : offset.toInt ≤ t.nameTableSize) :
    t.nameAt offset = .error (.unterminatedName (t.namePlace offset)) ↔
      ∀ place, t.namePlace offset ≤ place → place < t.nameTableEnd →
        t.region.toList[place]? ≠ some 0 := by
  refine ⟨?_, nameAt_of_nonzero hpos hle hstart⟩
  intro hmissing place hplace hlt hzero
  obtain ⟨first, hfirst_le, hfirst⟩ := FirstZero.exists_of_zero hplace hzero
  rw [nameAt_of_firstZero hpos hle hfirst (Nat.lt_of_le_of_lt hfirst_le hlt),
    Outcome.ofExcept_eq_error_iff, textAt_eq_error_iff] at hmissing
  cases hmissing.2

/-- Behind the end of the name table there is no name, even if another table goes on with a zero. -/
theorem nameAt_of_end (hend : offset.toInt = t.nameTableSize) :
    t.nameAt offset = .error (.unterminatedName t.nameTableEnd) := by
  have hplace : t.namePlace offset = t.nameTableEnd := by
    rw [namePlace, hend, Int.toNat_natCast, nameTableSize]
    omega
  rw [← hplace]
  apply nameAt_of_nonzero (by omega) (Int.le_of_eq hend) hstart
  intro place hfrom hto
  omega

end

/-- A name that is read has no zero, and the one behind it stands in the name table. -/
theorem terminator_of_nameAt (h : t.nameAt offset = .ok name) :
    0 ∉ name.toByteArray.data.toList ∧
      t.namePlace offset + name.toByteArray.data.toList.length < t.nameTableEnd ∧
      t.region.toList[t.namePlace offset + name.toByteArray.data.toList.length]? = some 0 := by
  obtain ⟨-, -, place, hlt, hfirst, hbytes⟩ := exists_firstZero_of_nameAt h
  have hle := hfirst.le
  have hend : t.nameTableEnd ≤ t.region.size := t.header.tableEnd_le _ _
  have hlength : name.toByteArray.data.toList.length = place - t.namePlace offset := by
    rw [hbytes, length_window_of_le (by rw [Region.length_toList]; omega)]
  rw [hlength, hbytes, Nat.add_sub_cancel' hle]
  exact ⟨hfirst.zero_notMem_window, hlt, hfirst.zero⟩

/-- Reading a name from an image, with any offset into its name table. The name table lies in the
region. The offset is refused exactly if it is negative or exceeds the size of the name table.
Otherwise a zero is missing exactly if there is none up to the end of the name table, in particular
if the offset leads to that end. Otherwise the bytes in front of the first zero are the name,
exactly if they are UTF-8. So a name holds no zero and stands in the name table in front of one, and
it depends on the bytes of the name table alone. -/
theorem nameAt_of_any_offset {r : Region} (h : ofRegion r = .ok t) (offset : Int32) :
    t.header.nameTableOffset.toNat ≤ t.nameTableEnd ∧ t.nameTableEnd ≤ r.size ∧
      (t.nameAt offset = .error (.invalidNameOffset offset t.nameTableSize) ↔
        offset.toInt < 0 ∨ (t.nameTableSize : Int) < offset.toInt) ∧
      (0 ≤ offset.toInt → offset.toInt ≤ t.nameTableSize →
        (t.nameAt offset = .error (.unterminatedName (t.namePlace offset)) ↔
          ∀ place, t.namePlace offset ≤ place → place < t.nameTableEnd →
            r.toList[place]? ≠ some 0) ∧
        (offset.toInt = t.nameTableSize →
          t.nameAt offset = .error (.unterminatedName t.nameTableEnd)) ∧
        ∀ place < t.nameTableEnd, FirstZero r.toList (t.namePlace offset) place →
          ∀ bytes, bytes = window r.toList (t.namePlace offset) (place - t.namePlace offset) →
            ((∃ name, t.nameAt offset = .ok name) ↔ bytes.toByteArray.IsValidUTF8) ∧
            (t.nameAt offset = .error (.invalidNameEncoding (t.namePlace offset)) ↔
              ¬ bytes.toByteArray.IsValidUTF8) ∧
            ∀ name, t.nameAt offset = .ok name ↔ name.toByteArray.data.toList = bytes) ∧
      (∀ name, t.nameAt offset = .ok name →
        0 ∉ name.toByteArray.data.toList ∧
          t.namePlace offset + name.toByteArray.data.toList.length < t.nameTableEnd ∧
          r.toList[t.namePlace offset + name.toByteArray.data.toList.length]? = some 0) ∧
      ∀ r' t', ofRegion r' = .ok t' → r'.size = r.size → t'.header = t.header →
        window r'.toList t.header.nameTableOffset.toNat t.nameTableSize =
          window r.toList t.header.nameTableOffset.toNat t.nameTableSize →
        t'.nameAt offset = t.nameAt offset := by
  obtain ⟨rfl, -⟩ := ofRegion_eq_ok_iff.mp h
  have hstart : t.header.nameTableOffset.toNat ≤ t.nameTableEnd :=
    Header.le_tableEnd rfl (Nat.le_of_lt (nameTableOffset_lt_of_ofRegion h))
  refine ⟨hstart, t.header.tableEnd_le _ _, nameAt_eq_invalidNameOffset_iff hstart, ?_,
    fun name ↦ terminator_of_nameAt, ?_⟩
  · intro hpos hle
    refine ⟨nameAt_eq_unterminatedName_iff hstart hpos hle, nameAt_of_end hstart, ?_⟩
    rintro place hlt hfirst _ rfl
    rw [nameAt_of_firstZero hpos hle hfirst hlt]
    simp only [Outcome.ofExcept_eq_ok_iff, Outcome.ofExcept_eq_error_iff]
    refine ⟨exists_textAt_eq_ok_iff, ?_, fun name ↦ textAt_eq_ok_iff⟩
    rw [textAt_eq_error_iff, and_iff_left rfl]
  · intro r' t' h' hsize hheader hwindow
    obtain ⟨rfl, -⟩ := ofRegion_eq_ok_iff.mp h'
    exact nameAt_congr hstart hsize hheader hwindow offset

set_option maxRecDepth 20000 in
/-- In the sample image an offset to the end of the name table finds no zero, although the next byte
is one; the offset behind it is refused, and the one in front of it gives the empty name. -/
theorem nameAt_of_any_offset_sample :
    ofRegion sample = .ok sampleImage ∧ sample.toList[38]? = some 0 ∧
      sampleImage.nameAt 2 = .error (.unterminatedName 38) ∧
      sampleImage.nameAt 3 = .error (.invalidNameOffset 3 2) ∧
      sampleImage.nameAt 1 = .ok "" := by
  have hsize : sampleImage.nameTableSize = 2 := by decide +kernel
  have hend : sampleImage.nameTableEnd = 38 := by decide +kernel
  obtain ⟨-, -, -, hlast, -⟩ := nameAt_of_any_offset ofRegion_sample 2
  obtain ⟨-, -, hrefused, -⟩ := nameAt_of_any_offset ofRegion_sample 3
  obtain ⟨-, -, -, hname, -⟩ := nameAt_of_any_offset ofRegion_sample 1
  rw [hsize] at hlast hrefused hname
  rw [hend] at hlast hname
  have hzero : FirstZero sample.toList (sampleImage.namePlace 1) 37 := by
    refine ⟨by decide, by decide +kernel, ?_⟩
    intro i hle hlt
    exact absurd hle (Nat.not_le.mpr hlt)
  refine ⟨ofRegion_sample, by decide +kernel, (hlast (by decide) (by decide)).2.1 rfl,
    hrefused.mpr (by decide), ?_⟩
  obtain ⟨-, -, hbytes⟩ := (hname (by decide) (by decide)).2.2 37 (by decide) hzero _ rfl
  exact (hbytes "").mpr rfl

end Image

end FuncMeta
