import FuncMeta.Proofs.Image.Audit
import FuncMeta.Proofs.Image.Failure
import FuncMeta.Proofs.Image.Walk

/-!
# The defects that an audit lists

What is wrong at a record is said here record by record, apart from the loop that goes along the
table: its place in the order, its descriptor and its name, each for itself. An audit fails only for
the header or for a record that cannot be read. Otherwise it lists the defects of all records in
their order, then that of the end of the last function, and nothing else. Main statements:
`issuesFrom_range'_eq`, `audit_of_hasRecord` and `audit_of_any_bytes`.
-/

namespace FuncMeta

namespace Image

variable {t : Image} {index : Nat}

/-- The defect of a record whose entry lies below the one in front of it. -/
def orderDefects (t : Image) : (index : Nat) → List Issue
  | 0 => []
  | index + 1 =>
    if t.entryAt (index + 1) < t.entryAt index then
      [.unordered (index + 1) (t.entryAt index) (t.entryAt (index + 1))]
    else []

/-- The defect of a record whose descriptor shows another entry, or cannot be decoded. -/
def descriptorDefects (t : Image) (index : Nat) : List Issue :=
  match t.descriptor (t.recordAt index).metadataOffset with
  | .ok d =>
    if d.entry = t.entryAt index then [] else [.entryMismatch index (t.entryAt index) d.entry]
  | .error e => [.badDescriptor index e.message]
  | .halt => []

/-- The defect of a record whose name cannot be decoded, whatever is wrong with its descriptor. -/
def nameDefects (t : Image) (index : Nat) : List Issue :=
  match t.name (t.recordAt index).metadataOffset with
  | .ok _ => []
  | .error e => [.badName index e.message]
  | .halt => []

/-- The defects of a record. -/
def defectsAt (t : Image) (index : Nat) : List Issue :=
  t.orderDefects index ++ t.descriptorDefects index ++ t.nameDefects index

/-- The defect of the record behind the last function, which cannot be read or has an entry below
the last one. -/
def endDefects (t : Image) : List Issue :=
  if t.HasRecord t.count then
    if 0 < t.count ∧ t.entryAt t.count < t.entryAt (t.count - 1) then
      [.sentinelBeforeLastEntry (t.entryAt t.count) (t.entryAt (t.count - 1))]
    else []
  else [.missingSentinel (LayoutError.truncatedTable t.count (Word.saturate (t.count + 1))).message]

/-- The entry in front of a record, if there is a record in front of it. -/
def entryBefore? (t : Image) : (index : Nat) → Option Address
  | 0 => none
  | index + 1 => some (t.entryAt index)

private theorem orderIssues_entryBefore? (t : Image) (index : Nat) :
    orderIssues index (t.entryBefore? index) (t.entryAt index) = t.orderDefects index := by
  cases index with
  | zero => rfl
  | succ index => rfl

private theorem descriptorIssues_recordAt (t : Image) (index : Nat) :
    t.descriptorIssues index (t.recordAt index) = .ok (t.descriptorDefects index) := by
  rw [descriptorIssues, descriptorDefects]
  cases h : t.descriptor (t.recordAt index).metadataOffset with
  | ok d => rfl
  | error e => rfl
  | halt => exact absurd h (descriptor_ne_halt _ _)

private theorem nameIssues_recordAt (t : Image) (index : Nat) :
    t.nameIssues index (t.recordAt index) = .ok (t.nameDefects index) := by
  rw [nameIssues, nameDefects]
  cases h : t.name (t.recordAt index).metadataOffset with
  | ok name => rfl
  | error e => rfl
  | halt => exact absurd h (name_ne_halt _ _)

/-- The loop along some records lists the defects of each of them. -/
theorem issuesFrom_range'_eq (t : Image) (index remaining : Nat) :
    t.issuesFrom index (t.entryBefore? index) ((List.range' index remaining).map t.recordAt) =
      .ok ((List.range' index remaining).flatMap t.defectsAt) := by
  induction remaining generalizing index with
  | zero => rfl
  | succ remaining ih =>
    have hlater := ih (index + 1)
    rw [entryBefore?] at hlater
    rw [List.range'_succ, List.map_cons, List.flatMap_cons, issuesFrom, descriptorIssues_recordAt,
      Outcome.ok_bind, nameIssues_recordAt, Outcome.ok_bind]
    show (t.issuesFrom (index + 1) (some (t.entryAt index)) _ >>= _) = _
    rw [hlater, Outcome.ok_bind]
    show Outcome.ok (orderIssues index _ (t.entryAt index) ++ _ ++ _ ++ _) = _
    rw [orderIssues_entryBefore?, defectsAt]

section

variable (hw : IsWordSize t.header.pointerSize)

include hw

private theorem sentinelIssues_recordAt :
    t.sentinelIssues (((List.range t.count).map t.recordAt).getLast?.map Record.entry) =
      .ok t.endDefects := by
  rw [sentinelIssues, endDefects]
  by_cases h : t.HasRecord t.count
  · rw [endOfText_of_hasRecord hw h, if_pos h, List.getLast?_map, List.getLast?_range]
    by_cases hzero : t.count = 0
    · rw [if_pos hzero, if_neg (by omega)]
      rfl
    · rw [if_neg hzero]
      show Outcome.ok (if t.entryAt t.count < t.entryAt (t.count - 1) then _ else _) = _
      by_cases hlt : t.entryAt t.count < t.entryAt (t.count - 1)
      · rw [if_pos hlt, if_pos ⟨Nat.pos_of_ne_zero hzero, hlt⟩]
        rfl
      · rw [if_neg hlt, if_neg fun hboth ↦ hlt hboth.2]
  · rw [endOfText, record_of_not_hasRecord h, if_neg h]
    rfl

/-- A table that can be read is audited: the defects are those of its records and of its end. -/
theorem audit_of_hasRecord (h : ∀ i < t.count, t.HasRecord i) :
    t.audit = .ok
      { header := t.header, checked := t.count,
        issues := (List.range t.count).flatMap t.defectsAt ++ t.endDefects } := by
  have hread : t.allRecords = .ok ((List.range t.count).map t.recordAt) :=
    allRecords_eq_ok_iff.mpr ((records_eq_ok_iff hw).mpr ⟨h, rfl⟩)
  have hissues := t.issuesFrom_range'_eq 0 t.count
  rw [← List.range_eq_range', entryBefore?] at hissues
  rw [audit, hread, Outcome.ok_bind, hissues, Outcome.ok_bind, sentinelIssues_recordAt hw,
    Outcome.ok_bind, List.length_map, List.length_range]
  rfl

/-- A table that cannot be read is not audited: it is truncated at the first record that does not
lie in the region. -/
theorem audit_of_readable_lt (h : t.readable < t.count) :
    t.audit = .error (.truncatedTable t.readable t.count) := by
  rw [audit, allRecords, records_eq hw, if_pos h]
  rfl

end

/-- Entries of which none lies below the one in front of it are in order. -/
theorem entryAt_le_of_neighbours {count : Nat}
    (h : ∀ i, i + 1 < count → t.entryAt i ≤ t.entryAt (i + 1)) {i j : Nat} (hij : i ≤ j)
    (hj : j < count) : t.entryAt i ≤ t.entryAt j := by
  induction j with
  | zero =>
    obtain rfl : i = 0 := Nat.le_zero.mp hij
    exact Address.le_refl _
  | succ j ih =>
    rcases Nat.lt_or_eq_of_le hij with hlt | rfl
    · exact Address.le_trans (ih (Nat.le_of_lt_succ hlt) (by omega)) (h j hj)
    · exact Address.le_refl _

private theorem orderDefects_eq_nil_iff {count : Nat} :
    (∀ i < count, t.orderDefects i = []) ↔
      ∀ i j, i ≤ j → j < count → t.entryAt i ≤ t.entryAt j := by
  constructor
  · intro h i j
    apply entryAt_le_of_neighbours
    intro i hi
    apply Address.not_lt.mp
    intro hlt
    have hnone := h (i + 1) hi
    rw [orderDefects, if_pos hlt] at hnone
    cases hnone
  · intro h i hi
    cases i with
    | zero => rfl
    | succ i => rw [orderDefects, if_neg (Address.not_lt.mpr (h i (i + 1) (Nat.le_succ i) hi))]

private theorem descriptorDefects_eq_nil_iff :
    t.descriptorDefects index = [] ↔
      ∃ d, t.descriptor (t.recordAt index).metadataOffset = .ok d ∧
        d.entry = t.entryAt index := by
  rw [← Outcome.ok.injEq (ε := LayoutError), ← descriptorIssues_recordAt,
    descriptorIssues_eq_nil_iff]
  rfl

private theorem nameDefects_eq_nil_iff :
    t.nameDefects index = [] ↔
      ∃ name, t.name (t.recordAt index).metadataOffset = .ok name := by
  rw [← Outcome.ok.injEq (ε := LayoutError), ← nameIssues_recordAt, nameIssues_eq_nil_iff]

private theorem endDefects_eq_nil_iff :
    t.endDefects = [] ↔
      t.HasRecord t.count ∧ (0 < t.count → t.entryAt (t.count - 1) ≤ t.entryAt t.count) := by
  rw [endDefects]
  by_cases h : t.HasRecord t.count
  · rw [if_pos h]
    by_cases hlt : 0 < t.count ∧ t.entryAt t.count < t.entryAt (t.count - 1)
    · simp [hlt, Address.not_le.mpr hlt.2]
    · rw [if_neg hlt]
      refine iff_of_true rfl ⟨h, fun hpos ↦ Address.not_lt.mp fun hbelow ↦ hlt ⟨hpos, hbelow⟩⟩
  · simp [h]

/-- No defect is listed exactly if the entries are in order, each descriptor shows the entry of its
record, each name can be decoded, and the last function does not end below its entry. -/
theorem defects_eq_nil_iff :
    (List.range t.count).flatMap t.defectsAt ++ t.endDefects = [] ↔
      (∀ i j, i ≤ j → j < t.count → t.entryAt i ≤ t.entryAt j) ∧
        (∀ i < t.count, ∃ d, t.descriptor (t.recordAt i).metadataOffset = .ok d ∧
          d.entry = t.entryAt i) ∧
        (∀ i < t.count, ∃ name, t.name (t.recordAt i).metadataOffset = .ok name) ∧
        t.HasRecord t.count ∧
        (0 < t.count → t.entryAt (t.count - 1) ≤ t.entryAt t.count) := by
  simp only [List.append_eq_nil_iff, List.flatMap_eq_nil_iff, List.mem_range, defectsAt,
    endDefects_eq_nil_iff, ← orderDefects_eq_nil_iff, ← descriptorDefects_eq_nil_iff,
    ← nameDefects_eq_nil_iff]
  constructor
  · rintro ⟨hrecords, hend⟩
    exact ⟨fun i hi ↦ (hrecords i hi).1.1, fun i hi ↦ (hrecords i hi).1.2,
      fun i hi ↦ (hrecords i hi).2, hend⟩
  · rintro ⟨horder, hdescriptors, hnames, hend⟩
    exact ⟨fun i hi ↦ ⟨⟨horder i hi, hdescriptors i hi⟩, hnames i hi⟩, hend⟩

/-- The first record that is counted but does not lie in the region stands behind the readable
ones. -/
theorem first_missing_iff (hw : IsWordSize t.header.pointerSize) :
    index < t.count ∧ ¬ t.HasRecord index ∧ (∀ j < index, t.HasRecord j) ↔
      t.readable < t.count ∧ index = t.readable := by
  simp only [hasRecord_iff_lt_wholeRecords hw, readable]
  constructor
  · rintro ⟨hlt, hnot, hbefore⟩
    have hle : index ≤ t.wholeRecords := by
      apply Nat.le_of_not_lt
      intro hgt
      exact Nat.lt_irrefl _ (hbefore _ hgt)
    omega
  · rintro ⟨hlt, rfl⟩
    refine ⟨hlt, by omega, fun j hj ↦ by omega⟩

/-- An audit fails exactly if a record that is counted does not lie in the region. -/
theorem audit_eq_error_iff (hw : IsWordSize t.header.pointerSize) {e : LayoutError} :
    t.audit = .error e ↔
      ∃ i < t.count, ¬ t.HasRecord i ∧ (∀ j < i, t.HasRecord j) ∧
        e = .truncatedTable i t.count := by
  have hcount := t.readable_le_count
  by_cases hshort : t.readable < t.count
  · rw [audit_of_readable_lt hw hshort, Outcome.error.injEq]
    constructor
    · rintro rfl
      obtain ⟨hlt, hnot, hbefore⟩ := (first_missing_iff hw).mpr ⟨hshort, rfl⟩
      exact ⟨_, hlt, hnot, hbefore, rfl⟩
    · rintro ⟨i, hlt, hnot, hbefore, rfl⟩
      rw [((first_missing_iff hw).mp ⟨hlt, hnot, hbefore⟩).2]
  · rw [audit_of_hasRecord hw fun i hi ↦ hasRecord_of_lt_readable hw (by omega)]
    constructor
    · intro h
      cases h
    · rintro ⟨i, hlt, hnot, -, -⟩
      exact absurd (hasRecord_of_lt_readable hw (by omega)) hnot

end Image

namespace Region

/-- An audit of any bytes. It fails exactly if the header is not accepted, with the failure of the
header, or if a record that is counted does not lie in the region, at the first such record.
Otherwise it has read all records and lists their defects record by record, each with its place in
the order, its descriptor and its name, and then that of the end of the last function. So it is
clean exactly if all entries are in order, all descriptors show the entries of their records, all
names can be decoded, and the last function has an end that does not lie below its entry. -/
theorem audit_of_any_bytes (r : Region) :
    (∀ e, r.audit = .error e ↔
      Header.decode r = .error e ∨
        ∃ t, Image.ofRegion r = .ok t ∧
          ∃ i < t.count, ¬ t.HasRecord i ∧ (∀ j < i, t.HasRecord j) ∧
            e = .truncatedTable i t.count) ∧
      ∀ t, Image.ofRegion r = .ok t → (∀ i < t.count, t.HasRecord i) →
        ∃ a, r.audit = .ok a ∧ a.header = t.header ∧ a.checked = t.count ∧
          a.issues = (List.range t.count).flatMap t.defectsAt ++ t.endDefects ∧
          (a.isClean = true ↔
            (∀ i j, i ≤ j → j < t.count → t.entryAt i ≤ t.entryAt j) ∧
              (∀ i < t.count, ∃ d, t.descriptor (t.recordAt i).metadataOffset = .ok d ∧
                d.entry = t.entryAt i) ∧
              (∀ i < t.count, ∃ name, t.name (t.recordAt i).metadataOffset = .ok name) ∧
              t.HasRecord t.count ∧
              (0 < t.count → t.entryAt (t.count - 1) ≤ t.entryAt t.count)) := by
  constructor
  · intro e
    cases hr : Image.ofRegion r with
    | error failure =>
      rw [audit, hr, Image.ofRegion_eq_error_iff.mp hr]
      simp
    | ok t =>
      have hw := Image.isWordSize_of_ofRegion hr
      obtain ⟨-, hd⟩ := Image.ofRegion_eq_ok_iff.mp hr
      rw [audit_of_ofRegion hr, hd, Image.audit_eq_error_iff hw]
      simp
  · intro t ht h
    have hw := Image.isWordSize_of_ofRegion ht
    refine ⟨_, (audit_of_ofRegion ht).trans (Image.audit_of_hasRecord hw h), rfl, rfl, rfl, ?_⟩
    rw [Audit.isClean, List.isEmpty_iff]
    exact Image.defects_eq_nil_iff

/-- An image with three records. The first two share a descriptor whose name offset is negative, and
the second one descends; the descriptor of the third is cut off behind its name offset. The last
function ends below its entry. -/
def defectiveBytes : List UInt8 :=
  [0xfa, 0xff, 0xff, 0xff, 0, 0, 1, 4] ++
    [3, 0, 36, 38, 38, 38, 40].flatMap (LittleEndian.encode 4) ++ [0x66, 0, 0, 0] ++
    [0x2000, 32, 0x1000, 32, 0x3000, 72, 0x800, 0].flatMap (LittleEndian.encode 4) ++
    LittleEndian.encode 4 0x2000 ++ LittleEndian.encode 4 0xffffffff ++ List.replicate 32 0 ++
    LittleEndian.encode 4 0x3000 ++ LittleEndian.encode 4 0

set_option maxRecDepth 20000 in
/-- The region of that image. -/
def defective : Region where
  bytes := ⟨defectiveBytes.toArray⟩
  size_lt := by decide

/-- That image under its header. -/
def defectiveImage : Image where
  region := defective
  header := { sampleHeader with functionCount := 3 }

/-- What is wrong with that image. -/
def defectiveIssues : List Issue :=
  [.badName 0 "Name offset -1 outside name table of 2 bytes", .unordered 1 ⟨0x2000⟩ ⟨0x1000⟩,
    .entryMismatch 1 ⟨0x1000⟩ ⟨0x2000⟩, .badName 1 "Name offset -1 outside name table of 2 bytes",
    .badDescriptor 2 "function descriptor offset 0x48 outside blob of 120 bytes",
    .sentinelBeforeLastEntry ⟨0x800⟩ ⟨0x3000⟩]

set_option maxRecDepth 20000 in
/-- An audit lists every one of these defects. The third record has a name, although its descriptor
cannot be decoded. -/
theorem audit_of_any_bytes_defective :
    Image.ofRegion defective = .ok defectiveImage ∧
      (∀ i < defectiveImage.count, defectiveImage.HasRecord i) ∧
      ∃ a, defective.audit = .ok a ∧ a.checked = 3 ∧ a.isClean = false ∧
        a.issues = defectiveIssues := by
  have himage : Image.ofRegion defective = .ok defectiveImage :=
    Image.ofRegion_eq_ok_iff.mpr ⟨rfl, by rfl⟩
  have hread : ∀ i < defectiveImage.count, defectiveImage.HasRecord i := by decide +kernel
  obtain ⟨a, haudit, -, hchecked, hissues, -⟩ :=
    (audit_of_any_bytes defective).2 defectiveImage himage hread
  have hlisted : a.issues = defectiveIssues := hissues.trans (by decide +kernel)
  refine ⟨himage, hread, a, haudit, hchecked.trans (by decide +kernel), ?_, hlisted⟩
  rw [Audit.isClean, hlisted]
  rfl

end Region

end FuncMeta
