import FuncMeta.Image.Cursor
import FuncMeta.Proofs.Image.Acceptance

/-!
# Records of the function table

A record is read exactly when all of its bytes lie in the region; otherwise the table is truncated
at it. So the readable records are an initial part of the table, and the walk along the table yields
them in order. Main statements: `record_of_hasRecord`, `record_of_not_hasRecord`,
`recordsFrom_of_hasRecord` and `next_advance_start`.
-/

namespace FuncMeta

namespace LayoutError

/-- A read does not halt. -/
theorem ofRead_ne_halt {α : Type} (x : Except RegionError α) : ofRead x ≠ .halt :=
  Outcome.ofExcept_ne_halt _

end LayoutError

namespace Image

variable {t : Image} {index count : Nat}

/-- A region is read as an image exactly when its header is accepted. -/
theorem ofRegion_eq_ok_iff {r : Region} :
    ofRegion r = .ok t ↔ t.region = r ∧ Header.decode r = .ok t.header := by
  rw [ofRegion]
  cases Header.decode r with
  | ok header =>
    simp only [Except.map, Except.ok.injEq]
    constructor
    · rintro rfl
      exact ⟨rfl, rfl⟩
    · rintro ⟨rfl, rfl⟩
      rfl
  | error e => simp only [Except.map, reduceCtorEq, and_false]

/-- The sample image. Its name table holds `f` and a zero; the table behind it starts with a zero.
-/
def sampleImage : Image where
  region := sample
  header := sampleHeader

/-- The sample is read under its header. -/
theorem ofRegion_sample : ofRegion sample = .ok sampleImage :=
  ofRegion_eq_ok_iff.mpr ⟨rfl, decode_sample⟩

/-- An image that a region holds has words of four or of eight bytes. -/
theorem isWordSize_of_ofRegion {r : Region} (h : ofRegion r = .ok t) :
    IsWordSize t.header.pointerSize :=
  (Header.decode_eq_ok_iff.mp (ofRegion_eq_ok_iff.mp h).2).2.isWordSize

/-- Where a record would start if the table went on forever. -/
def recordStart (t : Image) (index : Nat) : Nat :=
  index * t.header.recordSize + t.header.functionTableOffset.toNat

/-- All bytes of a record lie in the region. -/
def HasRecord (t : Image) (index : Nat) : Prop :=
  t.recordStart index + t.header.recordSize ≤ t.region.size

instance (t : Image) (index : Nat) : Decidable (t.HasRecord index) :=
  inferInstanceAs (Decidable (_ ≤ _))

/-- The word that the region shows at a place. -/
def wordAt (t : Image) (offset : Nat) : UInt64 := t.region.wordAt offset t.header.pointerSize

/-- The record that the region shows at an index. -/
def recordAt (t : Image) (index : Nat) : Record where
  entry := ⟨t.wordAt (t.recordStart index)⟩
  metadataOffset := t.wordAt (t.recordStart index + t.header.pointerSize.toNat)

/-- What stands before a readable record is readable. -/
theorem HasRecord.of_le {other : Nat} (h : t.HasRecord other) (hle : index ≤ other) :
    t.HasRecord index := by
  have hmul := Nat.mul_le_mul_right t.header.recordSize hle
  unfold HasRecord recordStart at *
  omega

/-- The number of whole records between the start of the function table and the end of the
region. -/
def wholeRecords (t : Image) : Nat :=
  (t.region.size - t.header.functionTableOffset.toNat) / t.header.recordSize

/-- The records that lie in the region are the first ones, as many as there are whole ones. -/
theorem hasRecord_iff_lt_wholeRecords (hw : IsWordSize t.header.pointerSize) :
    t.HasRecord index ↔ index < t.wholeRecords := by
  have hpos : 0 < t.header.recordSize := Nat.mul_pos (Nat.succ_pos 1) hw.toNat_pos
  rw [wholeRecords, ← Nat.succ_le_iff, Nat.le_div_iff_mul_le hpos, Nat.succ_mul, HasRecord,
    recordStart]
  omega

/-- A record that lies in the region is found at its start. -/
theorem recordOffset?_of_hasRecord (h : t.HasRecord index) :
    t.recordOffset? index = some (t.recordStart index) := by
  have hsize := t.region.size_lt_limit
  unfold HasRecord recordStart at h
  have hmul : Word.mul? index t.header.recordSize = some (index * t.header.recordSize) :=
    Word.mul?_eq_some_iff.mpr ⟨by omega, rfl⟩
  have hadd : Word.add? (index * t.header.recordSize) t.header.functionTableOffset.toNat =
      some (t.recordStart index) := Word.add?_eq_some_iff.mpr ⟨by omega, rfl⟩
  have hstop : Word.add? (t.recordStart index) t.header.recordSize =
      some (t.recordStart index + t.header.recordSize) :=
    Word.add?_eq_some_iff.mpr ⟨by rw [recordStart]; omega, rfl⟩
  simp only [recordOffset?, hmul, hadd, hstop, Option.bind_eq_bind, Option.bind_some]
  exact if_pos h

private theorem recordOffset?_of_not_hasRecord (h : ¬ t.HasRecord index) :
    t.recordOffset? index = none := by
  unfold recordOffset?
  cases hmul : Word.mul? index t.header.recordSize with
  | none => rfl
  | some relative =>
    cases hadd : Word.add? relative t.header.functionTableOffset.toNat with
    | none => simp [hadd]
    | some offset =>
      cases hstop : Word.add? offset t.header.recordSize with
      | none => simp [hadd, hstop]
      | some stop =>
        obtain ⟨-, rfl⟩ := Word.mul?_eq_some_iff.mp hmul
        obtain ⟨-, rfl⟩ := Word.add?_eq_some_iff.mp hadd
        obtain ⟨-, rfl⟩ := Word.add?_eq_some_iff.mp hstop
        simp only [hadd, hstop, Option.bind_eq_bind, Option.bind_some]
        exact if_neg h

/-- A record that does not lie in the region ends the table. -/
theorem record_of_not_hasRecord (h : ¬ t.HasRecord index) :
    t.record index count = .error (.truncatedTable index count) := by
  rw [record, recordOffset?_of_not_hasRecord h]

/-- A word that lies in the region is read as the number of its bytes. -/
theorem word_of_le {offset : Nat} (hw : IsWordSize t.header.pointerSize)
    (h : offset + t.header.pointerSize.toNat ≤ t.region.size) :
    t.word offset = .ok (t.wordAt offset) := by
  rw [word, Region.readWord_of_le hw h, LayoutError.ofRead_ok, wordAt]

/-- Places in the region are words. -/
theorem fit_of_le_size {ε : Type} {n : Nat} (h : n ≤ t.region.size) :
    (Word.fit n : Outcome ε Nat) = .ok n :=
  Word.fit_of_lt (Nat.lt_of_le_of_lt h t.region.size_lt_limit)

/-- A record that lies in the region is read. -/
theorem record_of_hasRecord (hw : IsWordSize t.header.pointerSize) (h : t.HasRecord index) :
    t.record index count = .ok (t.recordAt index) := by
  have hle := h
  unfold HasRecord Header.recordSize at hle
  rw [record, recordOffset?_of_hasRecord h]
  dsimp only
  rw [word_of_le hw (by omega), Outcome.ok_bind, fit_of_le_size (t := t) (by omega),
    Outcome.ok_bind, word_of_le hw (by omega)]
  rfl

/-- Reading a record stays within the words of the machine. -/
theorem record_ne_halt (t : Image) (index count : Nat) : t.record index count ≠ .halt := by
  by_cases h : t.HasRecord index
  · have hle := h
    unfold HasRecord Header.recordSize at hle
    rw [record, recordOffset?_of_hasRecord h]
    dsimp only
    rw [fit_of_le_size (t := t) (by omega)]
    simp only [ne_eq, Outcome.bind_eq_halt_iff, word, LayoutError.ofRead_ne_halt, false_or,
      Outcome.pure_def, reduceCtorEq, and_false, exists_const, not_false_eq_true]
  · rw [record_of_not_hasRecord h]
    exact nofun

/-- A walk over readable records yields all of them. -/
theorem recordsFrom_of_hasRecord (hw : IsWordSize t.header.pointerSize) {remaining : Nat}
    (h : ∀ i, index ≤ i → i < index + remaining → t.HasRecord i) :
    t.recordsFrom remaining index = ((List.range' index remaining).map t.recordAt, .ok ()) := by
  induction remaining generalizing index with
  | zero => rfl
  | succ remaining ih =>
    rw [recordsFrom, record_of_hasRecord hw (h index (Nat.le_refl _) (by omega))]
    dsimp only
    rw [ih fun i hle hlt ↦ h i (by omega) (by omega), List.range'_succ, List.map_cons]

/-- A walk that reaches its end has yielded every record that it passed. -/
theorem hasRecord_of_recordsFrom {records : List Record} {remaining : Nat}
    (h : t.recordsFrom remaining index = (records, .ok ())) :
    ∀ i, index ≤ i → i < index + remaining → t.HasRecord i := by
  induction remaining generalizing index records with
  | zero => intro i hle hlt; omega
  | succ remaining ih =>
    intro i hle hlt
    by_cases hrecord : t.HasRecord index
    · rcases Nat.lt_or_eq_of_le hle with hgt | rfl
      · rw [recordsFrom] at h
        cases hread : t.record index t.count with
        | ok record =>
          rw [hread] at h
          obtain ⟨-, hending⟩ := Prod.mk.inj h
          exact ih (Prod.ext rfl hending) i hgt (by omega)
        | error e =>
          rw [hread] at h
          cases h
        | halt =>
          rw [hread] at h
          cases h
      · exact hrecord
    · rw [recordsFrom, record_of_not_hasRecord hrecord] at h
      cases h

/-- The walk along the whole table reaches its end exactly when every record can be read. -/
theorem records_eq_ok_iff (hw : IsWordSize t.header.pointerSize) {records : List Record} :
    t.records = (records, .ok ()) ↔
      (∀ i, i < t.count → t.HasRecord i) ∧ (List.range t.count).map t.recordAt = records := by
  constructor
  · intro h
    have hread := hasRecord_of_recordsFrom h
    have hall : ∀ i, 0 ≤ i → i < 0 + t.count → t.HasRecord i := hread
    rw [Image.records, recordsFrom_of_hasRecord hw hall] at h
    exact ⟨fun i hi ↦ hread i (Nat.zero_le _) (by omega),
      by rw [List.range_eq_range']; exact (Prod.mk.inj h).1⟩
  · rintro ⟨hall, rfl⟩
    rw [Image.records, recordsFrom_of_hasRecord hw fun i _ hlt ↦ hall i (by omega),
      List.range_eq_range']

end Image

namespace Cursor

/-- The place after a number of further calls. -/
def advance (c : Cursor) : Nat → Cursor
  | 0 => c
  | n + 1 => (c.advance n).next.2

variable {t : Image}

/-- As long as records can be read, a walk from the start stands at the next one. -/
theorem advance_start (hw : IsWordSize t.header.pointerSize) {n : Nat} (hle : n ≤ t.count)
    (h : ∀ i, i < n → t.HasRecord i) :
    (start t).advance n = { image := t, index := n, failed := false } := by
  induction n with
  | zero => rfl
  | succ n ih =>
    have hlimit : n + 1 < Word.limit :=
      Nat.lt_of_le_of_lt hle (t.header.functionCount.toNat_lt)
    rw [advance, ih (by omega) fun i hi ↦ h i (by omega), next, if_neg (by simp; omega)]
    dsimp only
    rw [Image.record_of_hasRecord hw (h n (Nat.lt_succ_self n)), Word.fit_of_lt hlimit]

/-- The call that reaches a readable record yields it. -/
theorem next_advance_start (hw : IsWordSize t.header.pointerSize) {n : Nat} (hlt : n < t.count)
    (h : ∀ i, i ≤ n → t.HasRecord i) :
    ((start t).advance n).next.1 = .ok (some (t.recordAt n)) := by
  have hlimit : n + 1 < Word.limit :=
    Nat.lt_of_le_of_lt hlt (t.header.functionCount.toNat_lt)
  rw [advance_start hw (by omega) fun i hi ↦ h i (by omega), next, if_neg (by simp; omega)]
  dsimp only
  rw [Image.record_of_hasRecord hw (h n (Nat.le_refl n)), Word.fit_of_lt hlimit]

/-- After the last record the walk yields nothing. -/
theorem next_advance_count (hw : IsWordSize t.header.pointerSize)
    (h : ∀ i, i < t.count → t.HasRecord i) :
    ((start t).advance t.count).next = (.ok none, (start t).advance t.count) := by
  rw [advance_start hw (Nat.le_refl _) h, next, if_pos (.inr (Nat.le_refl _))]

end Cursor

end FuncMeta
