import FuncMeta.Proofs.Region.Window

/-!
# Fields of a region

Words of fixed or given width and zero-terminated strings, described by the bytes they show. A
word of an image has four or eight bytes; `IsWordSize` says so. Main statements:
`readWord_eq_ok_iff`, `readSignedWord_of_le` and `readCString_eq_ok_iff`.
-/

namespace FuncMeta

/-- Words have four or eight bytes. -/
def IsWordSize (width : UInt8) : Prop := width = 4 ∨ width = 8

instance (width : UInt8) : Decidable (IsWordSize width) :=
  inferInstanceAs (Decidable (width = 4 ∨ width = 8))

/-- A word has four bytes or eight. -/
theorem IsWordSize.toNat_eq {width : UInt8} (h : IsWordSize width) :
    width.toNat = 4 ∨ width.toNat = 8 := by
  rcases h with rfl | rfl
  · exact .inl rfl
  · exact .inr rfl

/-- A word has bytes. -/
theorem IsWordSize.toNat_pos {width : UInt8} (h : IsWordSize width) : 0 < width.toNat := by
  rcases h.toNat_eq with h | h <;> omega

private theorem IsWordSize.limit_le {width : UInt8} (h : IsWordSize width) :
    LittleEndian.limit width.toNat ≤ Word.limit := by
  rcases h with rfl | rfl <;> decide

/-- A word has an even number of contents. -/
theorem IsWordSize.limit_even {width : UInt8} (h : IsWordSize width) :
    LittleEndian.limit width.toNat % 2 = 0 := by
  rcases h with rfl | rfl <;> decide

/-- A signed number of four bytes keeps only what has room there. -/
theorem int32_ofNat_mod (n : Nat) : Int32.ofNat (n % LittleEndian.limit 4) = Int32.ofNat n := by
  apply Int32.toBitVec_inj.mp
  apply BitVec.eq_of_toNat_eq
  rw [Int32.toBitVec_ofNat', Int32.toBitVec_ofNat', BitVec.toNat_ofNat, BitVec.toNat_ofNat]
  exact Nat.mod_mod ..

namespace Region

variable {r : Region} {offset : Nat} {width : UInt8}

/-- The unsigned word of `width` bytes at a place. -/
def wordAt (r : Region) (offset : Nat) (width : UInt8) : UInt64 :=
  UInt64.ofNat (r.natAt offset width.toNat)

/-- The signed word of `width` bytes at a place. -/
def signedAt (r : Region) (offset : Nat) (width : UInt8) : Int64 :=
  .ofInt (Int.bmod (r.natAt offset width.toNat) (LittleEndian.limit width.toNat))

/-- The word at a place is the number of its bytes. -/
theorem toNat_wordAt (hw : IsWordSize width) (h : offset + width.toNat ≤ r.size) :
    (r.wordAt offset width).toNat = r.natAt offset width.toNat := by
  have hlt := Nat.lt_of_lt_of_le (natAt_lt h) hw.limit_le
  exact UInt64.toNat_ofNat_of_lt' hlt

/-- A byte in the region is read. -/
theorem readUInt8_of_le (h : offset + 1 ≤ r.size) :
    r.readUInt8 offset = .ok (UInt8.ofNat (r.natAt offset 1)) := by
  rw [readUInt8, readNat_of_le h, Except.map]

/-- Four bytes in the region are read as a word. -/
theorem readUInt32_of_le (h : offset + 4 ≤ r.size) :
    r.readUInt32 offset = .ok (UInt32.ofNat (r.natAt offset 4)) := by
  rw [readUInt32, readNat_of_le h, Except.map]

private theorem readUInt64_of_le (h : offset + 8 ≤ r.size) :
    r.readUInt64 offset = .ok (UInt64.ofNat (r.natAt offset 8)) := by
  rw [readUInt64, readNat_of_le h, Except.map]

/-- Four bytes in the region are read as a signed word. -/
theorem readInt32_of_le (h : offset + 4 ≤ r.size) :
    r.readInt32 offset = .ok (Int32.ofNat (r.natAt offset 4)) := by
  rw [readInt32, readUInt32_of_le h, Except.map, UInt32.toInt32_ofNat']

/-- A word of four or eight bytes is read if all of it lies in the region. -/
theorem readWord_of_le (hw : IsWordSize width) (h : offset + width.toNat ≤ r.size) :
    r.readWord offset width = .ok (r.wordAt offset width) := by
  rcases hw with rfl | rfl
  · have hlt : r.natAt offset 4 < UInt32.size := natAt_lt h
    rw [readWord, if_pos rfl, readUInt32_of_le h, Except.map]
    congr 1
    rw [← UInt64.toNat_inj, UInt32.toNat_toUInt64, UInt32.toNat_ofNat_of_lt' hlt,
      toNat_wordAt (.inl rfl) h]
    rfl
  · rw [readWord, if_neg (by decide), if_pos rfl, readUInt64_of_le h]
    rfl

/-- A word of four or eight bytes is not read if any of it leaves the region. -/
theorem readWord_of_lt (hw : IsWordSize width) (h : r.size < offset + width.toNat) :
    r.readWord offset width = .error (.outOfBounds offset width.toNat r.size) := by
  rcases hw with rfl | rfl
  · have hread : r.readNat offset 4 = .error (.outOfBounds offset 4 r.size) := readNat_of_lt h
    rw [readWord, if_pos rfl, readUInt32, hread]
    rfl
  · have hread : r.readNat offset 8 = .error (.outOfBounds offset 8 r.size) := readNat_of_lt h
    rw [readWord, if_neg (by decide), if_pos rfl, readUInt64, hread]
    rfl

/-- A word is read exactly if it lies in the region. -/
theorem readWord_eq_ok_iff (hw : IsWordSize width) {v : UInt64} :
    r.readWord offset width = .ok v ↔
      offset + width.toNat ≤ r.size ∧ r.wordAt offset width = v := by
  by_cases h : offset + width.toNat ≤ r.size
  · simp [readWord_of_le hw h, h]
  · simp [readWord_of_lt hw (Nat.not_le.mp h), h]

/-- Reading a word fails exactly if it leaves the region, and says so. -/
theorem readWord_eq_error_iff (hw : IsWordSize width) {e : RegionError} :
    r.readWord offset width = .error e ↔
      r.size < offset + width.toNat ∧ .outOfBounds offset width.toNat r.size = e := by
  by_cases h : offset + width.toNat ≤ r.size
  · simp [readWord_of_le hw h, Nat.not_lt.mpr h]
  · simp [readWord_of_lt hw (Nat.not_le.mp h), Nat.not_le.mp h]

/-- A signed word is read if all of it lies in the region; one of four bytes keeps its sign. -/
theorem readSignedWord_of_le (hw : IsWordSize width) (h : offset + width.toNat ≤ r.size) :
    r.readSignedWord offset width = .ok (r.signedAt offset width) := by
  rcases hw with rfl | rfl
  · rw [readSignedWord, if_pos rfl, readInt32_of_le h, Except.map, ← Int64.ofInt_int32ToInt,
      Int32.toInt_ofNat']
    rfl
  · rw [readSignedWord, if_neg (by decide), if_pos rfl, readUInt64_of_le h, Except.map,
      UInt64.toInt64_ofNat']
    have hmod : (r.natAt offset 8 : Int).bmod Int64.size =
        ((r.natAt offset 8 : Int).bmod Int64.size).bmod Int64.size := Int.bmod_bmod.symm
    exact congrArg Except.ok (Int64.toInt_inj.mp
      (Int64.toInt_ofNat'.trans (hmod.trans Int64.toInt_ofInt.symm)))

end Region

/-- The first zero at or after a place of a byte list. -/
structure FirstZero (bs : List UInt8) (offset place : Nat) : Prop where
  le : offset ≤ place
  zero : bs[place]? = some 0
  nonzero : ∀ i, offset ≤ i → i < place → bs[i]? ≠ some 0

namespace FirstZero

variable {bs : List UInt8} {offset place : Nat}

/-- A text without a zero ends where the zero stands that follows it. -/
theorem of_window {text : List UInt8} (hz : 0 ∉ text)
    (hw : window bs offset (text.length + 1) = text ++ [0]) :
    FirstZero bs offset (offset + text.length) where
  le := Nat.le_add_right ..
  zero := by
    rw [← getElem?_window (Nat.lt_succ_self text.length), hw, List.getElem?_concat_length]
  nonzero := by
    intro i hle hlt hi
    have hin : i - offset < text.length := by omega
    rw [show i = offset + (i - offset) by omega,
      ← getElem?_window (Nat.lt_succ_of_lt hin), hw, List.getElem?_append_left hin] at hi
    exact hz (List.mem_of_getElem? hi)

/-- Bytes after the zero do not matter. -/
theorem of_take {n : Nat} (h : FirstZero (bs.take n) offset place) (hn : place < n) :
    FirstZero bs offset place where
  le := h.le
  zero := by rw [← List.getElem?_take_of_lt hn, h.zero]
  nonzero := by
    intro i hle hlt
    rw [← List.getElem?_take_of_lt (Nat.lt_trans hlt hn)]
    exact h.nonzero i hle hlt

end FirstZero

namespace Region

private theorem zeroWithin?_eq_some_iff {r : Region} {offset length place : Nat} :
    r.zeroWithin? offset length = some place ↔
      place < offset + length ∧ FirstZero r.toList offset place := by
  induction length generalizing offset with
  | zero =>
    simp only [zeroWithin?, reduceCtorEq, false_iff, not_and]
    intro hlt h
    exact Nat.not_lt.mpr h.le hlt
  | succ length ih =>
    rw [zeroWithin?, byte?_eq_getElem?]
    split
    · next hz =>
      rw [Option.some.injEq]
      constructor
      · rintro rfl
        exact ⟨by omega, Nat.le_refl _, hz, fun i hle hlt ↦ absurd hle (Nat.not_le.mpr hlt)⟩
      · rintro ⟨-, h⟩
        rcases Nat.lt_or_eq_of_le h.le with hlt | heq
        · exact absurd hz (h.nonzero offset (Nat.le_refl _) hlt)
        · exact heq
    · next hz =>
      rw [ih]
      constructor
      · rintro ⟨hlt, h⟩
        refine ⟨by omega, by have := h.le; omega, h.zero, ?_⟩
        intro i hle hlt
        rcases Nat.lt_or_eq_of_le hle with hgt | rfl
        · exact h.nonzero i hgt hlt
        · exact hz
      · rintro ⟨hlt, h⟩
        have hne : offset ≠ place := by
          rintro rfl
          exact hz h.zero
        have hle := h.le
        exact ⟨by omega, by omega, h.zero, fun i hle ↦ h.nonzero i (by omega)⟩

/-- A string is read exactly when a zero stands before the end that it is given. -/
theorem readCString_eq_ok_iff {r found : Region} {offset stop : Nat} :
    r.readCString offset stop = .ok found ↔
      stop ≤ r.size ∧ ∃ place, place < stop ∧ FirstZero r.toList offset place ∧
        r.extract offset place = found := by
  rw [readCString]
  split
  · next hin =>
    cases hz : r.zeroWithin? offset (stop - offset) with
    | some place =>
      obtain ⟨hlt, hfirst⟩ := zeroWithin?_eq_some_iff.mp hz
      simp only [Except.ok.injEq]
      constructor
      · intro h
        exact ⟨hin.2, place, by omega, hfirst, h⟩
      · rintro ⟨-, other, hother, h, rfl⟩
        have hsame := zeroWithin?_eq_some_iff.mpr ⟨(by omega : other < offset + (stop - offset)), h⟩
        rw [Option.some.inj (hz.symm.trans hsame)]
    | none =>
      simp only [reduceCtorEq, false_iff, not_and, not_exists]
      intro _ place hlt h
      have hsome := zeroWithin?_eq_some_iff.mpr ⟨(by omega : place < offset + (stop - offset)), h⟩
      rw [hz] at hsome
      cases hsome
  · next hout =>
    simp only [reduceCtorEq, false_iff, not_and, not_exists]
    intro hle place hlt h
    have := h.le
    omega

/-- A text without a zero is read if a zero follows it before the end. -/
theorem readCString_of_window {r : Region} {offset stop : Nat} {text : List UInt8}
    (hz : 0 ∉ text) (hw : window r.toList offset (text.length + 1) = text ++ [0])
    (hlt : offset + text.length < stop) (hle : stop ≤ r.size) :
    ∃ found, r.readCString offset stop = .ok found ∧ found.toList = text := by
  refine ⟨_, readCString_eq_ok_iff.mpr ⟨hle, _, hlt, .of_window hz hw, rfl⟩, ?_⟩
  rw [toList_extract_add, ← take_window (Nat.le_succ text.length), hw, List.take_left]

end Region

end FuncMeta
