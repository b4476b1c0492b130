import FuncMeta.Proofs.Image.Table

/-!
# Walks along any function table

Under any header whose words have four or eight bytes, as many records can be read as lie in the
region whole, but no more than are counted. A walk yields these in order, then one failure if the
count promises more, and nothing from then on. So a cursor is described by the number of calls made
to it. The whole walk, the access by index and the bound on the items to come follow from that. Main
statements: `next_placeAt`, `advance_start_eq` and `walk_of_any_table`.
-/

namespace FuncMeta

namespace Image

variable {t : Image} {index : Nat}

/-- The number of records that can be read: those that lie in the region whole, but no more than the
header counts. -/
def readable (t : Image) : Nat := min t.wholeRecords t.count

/-- No more records can be read than there are functions. -/
theorem readable_le_count (t : Image) : t.readable ≤ t.count := Nat.min_le_right ..

section

variable (hw : IsWordSize t.header.pointerSize)

include hw

/-- The records that can be read lie in the region. -/
theorem hasRecord_of_lt_readable (h : index < t.readable) : t.HasRecord index :=
  (hasRecord_iff_lt_wholeRecords hw).mpr (Nat.lt_of_lt_of_le h (Nat.min_le_left ..))

/-- A record that is counted behind the readable ones does not lie in the region. -/
theorem not_hasRecord_of_readable_le (hle : t.readable ≤ index) (hlt : index < t.count) :
    ¬ t.HasRecord index := by
  rw [hasRecord_iff_lt_wholeRecords hw]
  unfold readable at hle
  omega

/-- The access by index and the walk along the table see the same records. -/
theorem get?_eq (index : Nat) :
    t.get? index =
      if index < t.readable then .ok (some (t.recordAt index))
      else if index < t.count then .error (.truncatedTable index t.count)
      else .ok none := by
  have hle := t.readable_le_count
  rw [get?]
  by_cases hread : index < t.readable
  · rw [if_pos hread, if_pos (Nat.lt_of_lt_of_le hread hle),
      record_of_hasRecord hw (hasRecord_of_lt_readable hw hread), Outcome.map_ok]
  · rw [if_neg hread]
    by_cases hcount : index < t.count
    · rw [if_pos hcount, if_pos hcount, record_of_not_hasRecord
        (not_hasRecord_of_readable_le hw (Nat.le_of_not_lt hread) hcount), Outcome.map_error]
    · rw [if_neg hcount, if_neg hcount]

/-- A readable record consists of two words that stand one behind the other. -/
theorem toNat_recordAt (h : t.HasRecord index) :
    (t.recordAt index).entry.toNat =
        t.region.natAt (t.header.functionTableOffset.toNat +
          index * (2 * t.header.pointerSize.toNat)) t.header.pointerSize.toNat ∧
      (t.recordAt index).metadataOffset.toNat =
        t.region.natAt (t.header.functionTableOffset.toNat +
          index * (2 * t.header.pointerSize.toNat) + t.header.pointerSize.toNat)
          t.header.pointerSize.toNat := by
  have hstart : t.recordStart index = t.header.functionTableOffset.toNat +
      index * (2 * t.header.pointerSize.toNat) := Nat.add_comm ..
  rw [HasRecord, Header.recordSize, hstart] at h
  rw [recordAt, hstart]
  exact ⟨Region.toNat_wordAt hw (by omega), Region.toNat_wordAt hw (by omega)⟩

/-- How reading all records ends. -/
theorem recordsFrom_eq {remaining : Nat} (hsum : index + remaining = t.count)
    (hle : index ≤ t.readable) :
    t.recordsFrom remaining index =
      ((List.range' index (t.readable - index)).map t.recordAt,
        if t.readable < t.count then .error (.truncatedTable t.readable t.count) else .ok ()) := by
  have hcount := t.readable_le_count
  induction remaining generalizing index with
  | zero =>
    rw [recordsFrom, if_neg (by omega), Nat.sub_eq_zero_of_le (by omega), List.range'_zero,
      List.map_nil]
  | succ remaining ih =>
    rw [recordsFrom]
    rcases Nat.lt_or_eq_of_le hle with hlt | rfl
    · obtain ⟨left, hleft⟩ : ∃ left, t.readable - index = left + 1 :=
        ⟨t.readable - (index + 1), by omega⟩
      rw [record_of_hasRecord hw (hasRecord_of_lt_readable hw hlt)]
      dsimp only
      rw [ih (by omega) hlt, hleft, List.range'_succ, List.map_cons,
        show t.readable - (index + 1) = left by omega]
    · rw [record_of_not_hasRecord (not_hasRecord_of_readable_le hw (Nat.le_refl _) (by omega)),
        Nat.sub_self, List.range'_zero, List.map_nil, if_pos (by omega)]

/-- Reading all records gives the readable ones, and fails behind them if more are counted. -/
theorem records_eq :
    t.records =
      ((List.range t.readable).map t.recordAt,
        if t.readable < t.count then .error (.truncatedTable t.readable t.count) else .ok ()) := by
  rw [records, recordsFrom_eq hw (Nat.zero_add _) (Nat.zero_le _), Nat.sub_zero,
    List.range_eq_range']

end

end Image

namespace Cursor

variable {t : Image} {n : Nat}

/-- The item of a walk with a number: a readable record, then the failure at the first record that
is counted but cannot be read, then nothing. -/
def itemAt (t : Image) (n : Nat) : Outcome LayoutError (Option Record) :=
  if n < t.readable then .ok (some (t.recordAt n))
  else if n = t.readable ∧ n < t.count then .error (.truncatedTable n t.count)
  else .ok none

/-- The place on a walk behind a number of calls. -/
def placeAt (t : Image) (n : Nat) : Cursor where
  image := t
  index := min n t.readable
  failed := decide (t.readable < n ∧ t.readable < t.count)

private theorem itemAt_of_lt (h : n < t.readable) :
    itemAt t n = .ok (some (t.recordAt n)) := if_pos h

private theorem itemAt_readable (h : t.readable < t.count) :
    itemAt t t.readable = .error (.truncatedTable t.readable t.count) := by
  rw [itemAt, if_neg (Nat.lt_irrefl _), if_pos ⟨rfl, h⟩]

private theorem itemAt_of_ended (h : t.readable < n ∨ t.count ≤ n) : itemAt t n = .ok none := by
  have hle := t.readable_le_count
  rw [itemAt, if_neg (by omega), if_neg (by omega)]

section

variable (hw : IsWordSize t.header.pointerSize)

include hw

/-- One call to a cursor on the walk yields the next item and leads to the next place. -/
theorem next_placeAt (n : Nat) : (placeAt t n).next = (itemAt t n, placeAt t (n + 1)) := by
  have hle := t.readable_le_count
  have hlimit : t.count < Word.limit := t.header.functionCount.toNat_lt
  rcases Nat.lt_trichotomy n t.readable with hlt | rfl | hgt
  · have hplace : placeAt t n = { image := t, index := n, failed := false } := by
      rw [placeAt, Nat.min_eq_left (Nat.le_of_lt hlt), decide_eq_false (by omega)]
    have hafter : placeAt t (n + 1) = { image := t, index := n + 1, failed := false } := by
      rw [placeAt, Nat.min_eq_left hlt, decide_eq_false (by omega)]
    rw [hplace, hafter, itemAt_of_lt hlt, next, if_neg (by simp; omega)]
    dsimp only
    rw [Image.record_of_hasRecord hw (Image.hasRecord_of_lt_readable hw hlt),
      Word.fit_of_lt (by omega)]
  · have hplace : placeAt t t.readable = { image := t, index := t.readable, failed := false } := by
      rw [placeAt, Nat.min_self, decide_eq_false (by omega)]
    by_cases hmore : t.readable < t.count
    · have hafter : placeAt t (t.readable + 1) =
          { image := t, index := t.readable, failed := true } := by
        rw [placeAt, Nat.min_eq_right (Nat.le_succ _), decide_eq_true (by omega)]
      rw [hplace, hafter, itemAt_readable hmore, next, if_neg (by simp; omega)]
      dsimp only
      rw [Image.record_of_not_hasRecord
        (Image.not_hasRecord_of_readable_le hw (Nat.le_refl _) hmore)]
    · have hafter : placeAt t (t.readable + 1) = placeAt t t.readable := by
        rw [hplace, placeAt, Nat.min_eq_right (Nat.le_succ _), decide_eq_false (by omega)]
      rw [hafter, itemAt_of_ended (.inr (Nat.le_of_not_lt hmore)), next, if_pos]
      rw [hplace]
      exact .inr (Nat.le_of_not_lt hmore)
  · have hafter : placeAt t (n + 1) = placeAt t n := by
      rw [placeAt, placeAt, Nat.min_eq_right (by omega), Nat.min_eq_right (by omega)]
      congr 1
      exact decide_eq_decide.mpr (by omega)
    rw [hafter, itemAt_of_ended (.inl hgt), next, if_pos]
    show decide _ = true ∨ t.count ≤ min n t.readable
    rw [decide_eq_true_eq]
    omega

/-- A walk from the start goes through these places. -/
theorem advance_start_eq (n : Nat) : (start t).advance n = placeAt t n := by
  induction n with
  | zero => rw [advance, start, placeAt, Nat.zero_min, decide_eq_false (by omega)]
  | succ n ih => rw [advance, ih, next_placeAt hw]

private theorem next_advance_start_eq (n : Nat) : ((start t).advance n).next.1 = itemAt t n := by
  rw [advance_start_eq hw, next_placeAt hw]

end

/-- The number of items that some further calls yield. -/
def yielded (c : Cursor) : (calls : Nat) → Nat
  | 0 => 0
  | calls + 1 => (if c.next.1 = .ok none then 0 else 1) + c.next.2.yielded calls

/-- The bound on the items to come that a cursor on the walk announces: all records that are counted
from its place on, and nothing once it has failed. -/
def announced (t : Image) (n : Nat) : Nat := if t.readable < n then 0 else t.count - n

private theorem announced_of_ended (h : t.readable < n ∨ t.count ≤ n) : announced t n = 0 := by
  rw [announced]
  split
  · rfl
  · omega

private theorem announced_succ_lt (h : ¬ (t.readable < n ∨ t.count ≤ n)) :
    announced t (n + 1) < announced t n := by
  rw [announced, announced, if_neg (not_or.mp h).1]
  split
  · omega
  · omega

private theorem sizeHint_placeAt {ε : Type} (t : Image) (n : Nat) :
    ((placeAt t n).sizeHint : Outcome ε (Nat × Nat)) = .ok (0, announced t n) := by
  have hle := t.readable_le_count
  rw [sizeHint, announced]
  by_cases hfailed : t.readable < n ∧ t.readable < t.count
  · rw [if_pos (by exact decide_eq_true hfailed), if_pos hfailed.1]
  · have hin : (placeAt t n).index ≤ (placeAt t n).image.count :=
      Nat.le_trans (Nat.min_le_right ..) hle
    rw [if_neg (by rw [placeAt, decide_eq_true_eq]; exact hfailed), Word.sub_of_le hin,
      Outcome.map_ok]
    congr 2
    show t.count - min n t.readable = _
    split
    · omega
    · omega

/-- No more items are yielded than were announced. -/
theorem yielded_placeAt_le (hw : IsWordSize t.header.pointerSize) (calls n : Nat) :
    (placeAt t n).yielded calls ≤ announced t n := by
  induction calls generalizing n with
  | zero => exact Nat.zero_le _
  | succ calls ih =>
    have hlater := ih (n + 1)
    rw [yielded, next_placeAt hw]
    dsimp only
    by_cases hended : t.readable < n ∨ t.count ≤ n
    · rw [announced_of_ended (by omega)] at hlater
      rw [itemAt_of_ended hended, if_pos rfl]
      omega
    · have hless := announced_succ_lt hended
      split
      · omega
      · omega

end Cursor

/-- The walk along the function table of any region under any header whose words have four or eight
bytes. Its items are the readable records in their order, each of two words at its place; then one
failure, if more records are counted; then nothing, however often it is called. The access by index
gives the same records, and fails at each of those that are counted but cannot be read. After any
number of calls the cursor announces at least as many items as are still to come, and none when the
walk is over. -/
theorem Image.walk_of_any_table (t : Image) (hw : IsWordSize t.header.pointerSize) :
    (∀ i < t.readable,
      ((Cursor.start t).advance i).next.1 = .ok (some (t.recordAt i)) ∧
        t.get? i = .ok (some (t.recordAt i)) ∧
        (t.recordAt i).entry.toNat =
          t.region.natAt
            (t.header.functionTableOffset.toNat + i * (2 * t.header.pointerSize.toNat))
            t.header.pointerSize.toNat ∧
        (t.recordAt i).metadataOffset.toNat =
          t.region.natAt
            (t.header.functionTableOffset.toNat + i * (2 * t.header.pointerSize.toNat) +
              t.header.pointerSize.toNat)
            t.header.pointerSize.toNat) ∧
      (t.readable < t.count → ((Cursor.start t).advance t.readable).next.1 =
        .error (.truncatedTable t.readable t.count)) ∧
      (∀ n, t.readable < n ∨ t.count ≤ n → ((Cursor.start t).advance n).next.1 = .ok none) ∧
      (∀ i, t.readable ≤ i →
        t.get? i = if i < t.count then .error (.truncatedTable i t.count) else .ok none) ∧
      ∀ n, ∃ upper,
        (((Cursor.start t).advance n).sizeHint : Outcome LayoutError (Nat × Nat)) =
            .ok (0, upper) ∧
          (∀ calls, ((Cursor.start t).advance n).yielded calls ≤ upper) ∧
          (((Cursor.start t).advance n).next.1 = .ok none → upper = 0) := by
  refine ⟨?_, ?_, ?_, ?_, ?_⟩
  · intro i hi
    obtain ⟨hentry, hmetadata⟩ := toNat_recordAt hw (hasRecord_of_lt_readable hw hi)
    refine ⟨?_, ?_, hentry, hmetadata⟩
    · rw [Cursor.next_advance_start_eq hw, Cursor.itemAt_of_lt hi]
    · rw [get?_eq hw, if_pos hi]
  · intro hmore
    rw [Cursor.next_advance_start_eq hw, Cursor.itemAt_readable hmore]
  · intro n hended
    rw [Cursor.next_advance_start_eq hw, Cursor.itemAt_of_ended hended]
  · intro i hi
    rw [get?_eq hw, if_neg (Nat.not_lt.mpr hi)]
  · intro n
    refine ⟨Cursor.announced t n, ?_, ?_, ?_⟩
    · rw [Cursor.advance_start_eq hw, Cursor.sizeHint_placeAt]
    · intro calls
      rw [Cursor.advance_start_eq hw]
      exact Cursor.yielded_placeAt_le hw calls n
    · rw [Cursor.next_advance_start_eq hw]
      intro hnone
      apply Cursor.announced_of_ended
      apply Decidable.byContradiction
      intro hmore
      rcases Nat.lt_or_eq_of_le (Nat.le_of_not_lt (not_or.mp hmore).1) with hlt | rfl
      · rw [Cursor.itemAt_of_lt hlt] at hnone
        cases hnone
      · rw [Cursor.itemAt_readable (Nat.lt_of_not_le (not_or.mp hmore).2)] at hnone
        cases hnone

/-- The sample image cut through the middle of its second record, under the header of the whole
one. -/
def cutSampleImage : Image where
  region := sample.take 52
  header := sampleHeader

set_option maxRecDepth 20000 in
/-- Its walk yields the first record, fails once at the second and then yields nothing; before the
failure it announces the record that is missing, and nothing after it. -/
theorem Image.walk_of_any_table_cut :
    IsWordSize cutSampleImage.header.pointerSize ∧
      ((Cursor.start cutSampleImage).advance 0).next.1 =
        .ok (some { entry := ⟨0x1000⟩, metadataOffset := 24 }) ∧
      ((Cursor.start cutSampleImage).advance 1).next.1 = .error (.truncatedTable 1 2) ∧
      ((Cursor.start cutSampleImage).advance 2).next.1 = .ok none ∧
      ∃ upper, (((Cursor.start cutSampleImage).advance 2).sizeHint :
        Outcome LayoutError (Nat × Nat)) = .ok (0, upper) ∧ upper = 0 := by
  have hw : IsWordSize cutSampleImage.header.pointerSize := by decide
  have hreadable : cutSampleImage.readable = 1 := by decide +kernel
  have hcount : cutSampleImage.count = 2 := by decide +kernel
  obtain ⟨hrecord, hfailure, hnothing, -, hhint⟩ := walk_of_any_table cutSampleImage hw
  have hended : ((Cursor.start cutSampleImage).advance 2).next.1 = .ok none :=
    hnothing 2 (by omega)
  refine ⟨hw, ?_, ?_, hended, ?_⟩
  · rw [(hrecord 0 (by omega)).1]
    decide +kernel
  · rw [hreadable, hcount] at hfailure
    exact hfailure (by decide)
  · obtain ⟨upper, hupper, -, hzero⟩ := hhint 2
    exact ⟨upper, hupper, hzero hended⟩

end FuncMeta
