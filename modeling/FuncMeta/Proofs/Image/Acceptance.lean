import FuncMeta.Image.Header
import FuncMeta.Proofs.Region.Field

/-!
# Accepted headers

A region shows the fields of a header at fixed places. Decoding accepts it exactly when the magic,
the size of a word, the sign of the count and the starts of the tables are in order, and then gives
just those fields. Main statement: `decode_eq_ok_iff`.
-/

namespace FuncMeta.Header

variable {r : Region} {h : Header} {offset : Nat} {width : UInt8}

/-- Where a word of the header lies. -/
def wordPlace (width : UInt8) (index : Nat) : Nat := leadSize + index * width.toNat

/-- The fields that the bytes at the start of a region show if words have the given size. -/
def shownWith (r : Region) (width : UInt8) : Header where
  magic := UInt32.ofNat (r.natAt 0 4)
  minInstructionSize := UInt8.ofNat (r.natAt 6 1)
  pointerSize := width
  functionCount := r.wordAt (wordPlace width 0) width
  fileCount := r.wordAt (wordPlace width 1) width
  nameTableOffset := r.wordAt (wordPlace width 2) width
  cuTableOffset := r.wordAt (wordPlace width 3) width
  fileTableOffset := r.wordAt (wordPlace width 4) width
  pcTableOffset := r.wordAt (wordPlace width 5) width
  functionTableOffset := r.wordAt (wordPlace width 6) width

/-- The fields that the bytes at the start of a region show. -/
def shown (r : Region) : Header := shownWith r (UInt8.ofNat (r.natAt 7 1))

/-- What is asked of the fields of a header in a region of `regionSize` bytes. -/
structure IsValid (h : Header) (regionSize : Nat) : Prop where
  magic : h.magic = layoutMagic
  isWordSize : IsWordSize h.pointerSize
  size_le : h.size ≤ regionSize
  count_lt : h.functionCount.toNat < LittleEndian.limit h.pointerSize.toNat / 2
  offset_lt : ∀ table ∈ h.tables, table.2 < regionSize

/-- The words of a header lie in it. -/
theorem wordPlace_le {index : Nat} (hi : index < 7) :
    wordPlace width index + width.toNat ≤ sizeFor width := by
  have hmul : (index + 1) * width.toNat ≤ 7 * width.toNat := Nat.mul_le_mul_right _ hi
  rw [Nat.add_mul, Nat.one_mul] at hmul
  rw [wordPlace, sizeFor]
  omega

/-- A signed word is the number of its bytes, wrapped around zero. -/
theorem toInt_signedAt (hw : IsWordSize width) :
    (r.signedAt offset width).toInt =
      Int.bmod (r.natAt offset width.toNat) (LittleEndian.limit width.toNat) := by
  rw [Region.signedAt]
  rcases hw with rfl | rfl
  · have hlo := Int.le_bmod (x := r.natAt offset 4) (m := LittleEndian.limit 4) (by decide)
    have hhi := Int.bmod_lt (x := r.natAt offset 4) (m := LittleEndian.limit 4) (by decide)
    rw [LittleEndian.limit_four] at hlo hhi
    apply Int64.toInt_ofInt_of_le
    · exact Int.le_trans (by decide) hlo
    · exact Int.lt_of_lt_of_le hhi (by decide)
  · rw [Int64.toInt_ofInt]
    exact Int.bmod_bmod

/-- A count is the word as it stands, unless its highest bit marks it as negative. -/
theorem functionCount?_signedAt (hw : IsWordSize width) (hle : offset + width.toNat ≤ r.size) :
    functionCount? (r.signedAt offset width) =
      if (r.wordAt offset width).toNat < LittleEndian.limit width.toNat / 2 then
        .ok (r.wordAt offset width)
      else .error (.negativeFunctionCount (r.signedAt offset width)) := by
  have hlt := Region.natAt_lt hle
  have heven := hw.limit_even
  rw [Region.toNat_wordAt hw hle, functionCount?]
  by_cases hpos : r.natAt offset width.toNat < LittleEndian.limit width.toNat / 2
  · have hmod : Int.bmod (r.natAt offset width.toNat) (LittleEndian.limit width.toNat) =
        r.natAt offset width.toNat := Int.bmod_eq_of_le_mul_two (by omega) (by omega)
    have hnonneg : ¬ r.signedAt offset width < 0 := by
      rw [Int64.lt_iff_toInt_lt, toInt_signedAt hw, hmod]
      exact Int.not_lt.mpr (Int.natCast_nonneg _)
    rw [if_neg hnonneg, if_pos hpos, Region.signedAt, hmod, Int64.ofInt_eq_ofNat,
      Int64.toUInt64_ofNat', Region.wordAt]
  · have hneg : r.signedAt offset width < 0 := by
      rw [Int64.lt_iff_toInt_lt, toInt_signedAt hw]
      have hiff := Int.bmod_neg_iff (x := r.natAt offset width.toNat)
        (m := LittleEndian.limit width.toNat) (by omega) (by omega)
      exact hiff.mpr (by omega)
    rw [if_pos hneg, if_neg hpos]

private theorem exceptOk_bind {ε α β : Type} (a : α) (f : α → Except ε β) :
    (Except.ok a >>= f) = f a := rfl

private theorem exceptOk_mapError {ε ε' α : Type} (f : ε → ε') (a : α) :
    (Except.ok a).mapError f = .ok a := rfl

private theorem exceptError_bind {ε α β : Type} (e : ε) (f : α → Except ε β) :
    (Except.error e >>= f) = .error e := rfl

/-- The words of the header are those that the region shows, unless the count is negative. -/
theorem readWords_of_le (hw : IsWordSize width) (hle : sizeFor width ≤ r.size) :
    readWords r (UInt32.ofNat (r.natAt 0 4)) (UInt8.ofNat (r.natAt 6 1)) width =
      if (shownWith r width).functionCount.toNat < LittleEndian.limit width.toNat / 2 then
        .ok (shownWith r width)
      else .error (.negativeFunctionCount (r.signedAt (wordPlace width 0) width)) := by
  have word (index : Nat) (hi : index < 7) :
      r.readWord (leadSize + index * width.toNat) width =
        .ok (r.wordAt (wordPlace width index) width) :=
    Region.readWord_of_le hw (Nat.le_trans (wordPlace_le hi) hle)
  have first : r.readSignedWord (leadSize + 0 * width.toNat) width =
      .ok (r.signedAt (wordPlace width 0) width) :=
    Region.readSignedWord_of_le hw (Nat.le_trans (wordPlace_le (by decide)) hle)
  have count := functionCount?_signedAt hw (Nat.le_trans (wordPlace_le (by decide : 0 < 7)) hle)
  unfold readWords
  simp only [first, word 1 (by decide), word 2 (by decide), word 3 (by decide),
    word 4 (by decide), word 5 (by decide), word 6 (by decide), exceptOk_mapError, exceptOk_bind]
  rw [count]
  by_cases hlt : (shownWith r width).functionCount.toNat < LittleEndian.limit width.toNat / 2
  · rw [if_pos hlt, if_pos (by exact hlt), exceptOk_bind]
    rfl
  · rw [if_neg hlt, if_neg (by exact hlt), exceptError_bind]

private theorem tableOutside?_eq_none_iff {regionSize : Nat} :
    h.tableOutside? regionSize = none ↔ ∀ table ∈ h.tables, table.2 < regionSize := by
  rw [tableOutside?, List.find?_eq_none]
  simp only [decide_eq_true_eq, Nat.not_le]

/-- The checks of a header in their order: what is decoded if all are passed, and how the first
one that is not passed fails. -/
theorem decode_eq (r : Region) :
    decode r =
      if r.size < 4 then .error (.truncatedHeader 4 r.size)
      else if (shown r).magic ≠ layoutMagic then
        .error (.invalidMagic (shown r).magic layoutMagic)
      else if r.size < leadSize then .error (.truncatedHeader leadSize r.size)
      else if ¬ IsWordSize (shown r).pointerSize then
        .error (.unsupportedPointerSize (shown r).pointerSize)
      else if r.size < (shown r).size then .error (.truncatedHeader (shown r).size r.size)
      else if LittleEndian.limit (shown r).pointerSize.toNat / 2 ≤
          (shown r).functionCount.toNat then
        .error (.negativeFunctionCount
          (r.signedAt (wordPlace (shown r).pointerSize 0) (shown r).pointerSize))
      else match (shown r).tableOutside? r.size with
        | some (table, offset) => .error (.offsetOutOfBounds table offset r.size)
        | none => .ok (shown r) := by
  rw [decode]
  split
  · rfl
  · next h4 =>
    rw [Region.readUInt32_of_le (by omega)]
    show (if (shown r).magic ≠ layoutMagic then _ else _) = _
    split
    · rfl
    · split
      · rfl
      · next h8 =>
        rw [leadSize] at h8
        rw [Region.readUInt8_of_le (by omega), Region.readUInt8_of_le (by omega)]
        show (if (shown r).pointerSize ≠ 4 ∧ (shown r).pointerSize ≠ 8 then _ else _) = _
        by_cases hw : IsWordSize (shown r).pointerSize
        · rw [if_neg (by rcases hw with hw | hw <;> simp [hw]), if_neg (not_not_intro hw)]
          show (if r.size < (shown r).size then _ else _) = _
          split
          · rfl
          · next hsize =>
            have hwords := readWords_of_le hw (Nat.le_of_not_lt hsize)
            show (readWords r _ _ (shown r).pointerSize >>= _) = _
            rw [hwords]
            by_cases hc : (shown r).functionCount.toNat <
                LittleEndian.limit (shown r).pointerSize.toNat / 2
            · rw [if_neg (Nat.not_le.mpr hc)]
              exact congrArg (· >>= _) (if_pos hc)
            · rw [if_pos (Nat.le_of_not_lt hc)]
              exact congrArg (· >>= _) (if_neg hc)
        · rw [if_pos (not_or.mp hw), if_pos hw]
          rfl

/-- Decoding accepts a header exactly when its fields are valid, and gives those fields. -/
theorem decode_eq_ok_iff : decode r = .ok h ↔ shown r = h ∧ h.IsValid r.size := by
  rw [decode_eq]
  constructor
  · intro hd
    split at hd
    · cases hd
    · split at hd
      · cases hd
      · next hmagic =>
        split at hd
        · cases hd
        · split at hd
          · cases hd
          · next hw =>
            split at hd
            · cases hd
            · next hsize =>
              split at hd
              · cases hd
              · next hcount =>
                split at hd
                · cases hd
                · next hout =>
                  cases hd
                  exact ⟨rfl, Decidable.of_not_not hmagic, Decidable.of_not_not hw,
                    Nat.le_of_not_lt hsize, Nat.lt_of_not_le hcount,
                    tableOutside?_eq_none_iff.mp hout⟩
  · rintro ⟨rfl, hv⟩
    have hsize := hv.size_le
    have hlead : leadSize ≤ (shown r).size := Nat.le_add_right ..
    rw [if_neg (by rw [leadSize] at hlead; omega), if_neg (not_not_intro hv.magic),
      if_neg (by omega), if_neg (not_not_intro hv.isWordSize), if_neg (Nat.not_lt.mpr hsize),
      if_neg (Nat.not_le.mpr hv.count_lt), tableOutside?_eq_none_iff.mpr hv.offset_lt]

end FuncMeta.Header

namespace FuncMeta

/-- An image with two functions of the name `f`, the first at `0x1000`, the second from `0x2000` up
to `0x3000`. -/
def sampleBytes : List UInt8 :=
  [0xfa, 0xff, 0xff, 0xff, 0, 0, 1, 4] ++
    [2, 0, 36, 38, 38, 38, 40].flatMap (LittleEndian.encode 4) ++ [0x66, 0, 0, 0] ++
    [0x1000, 24, 0x2000, 64, 0x3000, 0].flatMap (LittleEndian.encode 4) ++
    LittleEndian.encode 4 0x1000 ++ List.replicate 36 0 ++
    LittleEndian.encode 4 0x2000 ++ List.replicate 36 0

set_option maxRecDepth 20000 in
/-- The region of the sample image. -/
def sample : Region where
  bytes := ⟨sampleBytes.toArray⟩
  size_lt := by decide

/-- The header of the sample image. -/
def sampleHeader : Header where
  magic := 0xfffffffa
  minInstructionSize := 1
  pointerSize := 4
  functionCount := 2
  fileCount := 0
  nameTableOffset := 36
  cuTableOffset := 38
  fileTableOffset := 38
  pcTableOffset := 38
  functionTableOffset := 40

set_option maxRecDepth 20000 in
/-- The header of the sample image is accepted. -/
theorem decode_sample : Header.decode sample = .ok sampleHeader := by rfl

end FuncMeta
