import FuncMeta.Image.Audit
import FuncMeta.Proofs.Image.Descriptor
import FuncMeta.Proofs.Image.Search

/-!
# What a clean audit shows

An audit compares each entry with the one in front of it and the last one with the end of the last
function. If it finds no defect, all entries are in order, every descriptor repeats the entry of its
record and every name can be decoded. What cannot be decoded is a defect of its record, so once the
records are read nothing fails an audit. Main statements: `exists_issuesFrom_eq_ok`,
`issuesFrom_eq_nil_iff` and `isSound_of_audit`.
-/

namespace FuncMeta

namespace Image

variable {t : Image} {index : Nat} {previous : Option Address} {entry : Address} {record : Record}
  {records : List Record}

/-- An image all of whose parts can be decoded, with its entries in order. -/
structure IsSound (t : Image) : Prop where
  isWordSize : IsWordSize t.header.pointerSize
  hasRecord : t.HasRecord t.count
  entryAt_le : ∀ i j, i ≤ j → j ≤ t.count → t.entryAt i ≤ t.entryAt j
  descriptor : ∀ i, i < t.count →
    ∃ d, t.descriptor (t.recordAt i).metadataOffset = .ok d ∧ d.entry = t.entryAt i
  name : ∀ i, i < t.count → ∃ name, t.name (t.recordAt i).metadataOffset = .ok name

private theorem exists_descriptorIssues_eq_ok (t : Image) (index : Nat) (record : Record) :
    ∃ issues, t.descriptorIssues index record = .ok issues := by
  rw [descriptorIssues]
  cases h : t.descriptor record.metadataOffset with
  | ok d => exact ⟨_, rfl⟩
  | error e => exact ⟨_, rfl⟩
  | halt => exact absurd h (descriptor_ne_halt _ _)

private theorem exists_nameIssues_eq_ok (t : Image) (index : Nat) (record : Record) :
    ∃ issues, t.nameIssues index record = .ok issues := by
  rw [nameIssues]
  cases h : t.name record.metadataOffset with
  | ok name => exact ⟨_, rfl⟩
  | error e => exact ⟨_, rfl⟩
  | halt => exact absurd h (name_ne_halt _ _)

/-- Whatever is wrong with some records becomes a list of defects. -/
theorem exists_issuesFrom_eq_ok (t : Image) (index : Nat) (previous : Option Address)
    (records : List Record) : ∃ issues, t.issuesFrom index previous records = .ok issues := by
  induction records generalizing index previous with
  | nil => exact ⟨[], rfl⟩
  | cons record rest ih =>
    obtain ⟨ofDescriptor, hdescriptor⟩ := exists_descriptorIssues_eq_ok t index record
    obtain ⟨ofName, hname⟩ := exists_nameIssues_eq_ok t index record
    obtain ⟨later, hlater⟩ := ih (index + 1) (some record.entry)
    rw [issuesFrom, hdescriptor, Outcome.ok_bind, hname, Outcome.ok_bind, hlater, Outcome.ok_bind]
    exact ⟨_, rfl⟩

/-- Whatever is wrong with the end of the last function becomes a list of defects. -/
theorem exists_sentinelIssues_eq_ok (t : Image) (last : Option Address) :
    ∃ issues, t.sentinelIssues last = .ok issues := by
  have hhalt : t.endOfText ≠ .halt := Outcome.map_ne_halt (record_ne_halt _ _ _)
  rw [sentinelIssues]
  cases h : t.endOfText with
  | ok sentinel => cases last <;> exact ⟨_, rfl⟩
  | error e => exact ⟨_, rfl⟩
  | halt => exact absurd h hhalt

/-- A record is in order exactly if its entry does not lie below the one in front of it. -/
theorem orderIssues_eq_nil_iff :
    orderIssues index previous entry = [] ↔ ∀ before, previous = some before → before ≤ entry := by
  cases previous with
  | none => simp [orderIssues]
  | some before =>
    rw [orderIssues]
    by_cases h : entry < before
    · simp [h, Address.not_le]
    · simp [h, Address.not_lt.mp h]

/-- A descriptor has no defect exactly if it is decoded and repeats the entry of its record. -/
theorem descriptorIssues_eq_nil_iff :
    t.descriptorIssues index record = .ok [] ↔
      ∃ d, t.descriptor record.metadataOffset = .ok d ∧ d.entry = record.entry := by
  rw [descriptorIssues]
  cases t.descriptor record.metadataOffset with
  | ok d =>
    by_cases h : d.entry = record.entry
    · simp [h]
    · simp [h]
  | error e => simp
  | halt => simp

/-- A name has no defect exactly if it is decoded. -/
theorem nameIssues_eq_nil_iff :
    t.nameIssues index record = .ok [] ↔ ∃ name, t.name record.metadataOffset = .ok name := by
  rw [nameIssues]
  cases t.name record.metadataOffset with
  | ok name => simp
  | error e => simp
  | halt => simp

/-- The end of the last function has no defect exactly if it is decoded and does not lie below the
last entry. -/
theorem sentinelIssues_eq_nil_iff {last : Option Address} :
    t.sentinelIssues last = .ok [] ↔
      ∃ sentinel, t.endOfText = .ok sentinel ∧ ∀ entry, last = some entry → entry ≤ sentinel := by
  rw [sentinelIssues]
  cases t.endOfText with
  | ok sentinel =>
    cases last with
    | none => simp
    | some entry =>
      by_cases h : sentinel < entry
      · simp [h, Address.not_le]
      · simp [h, Address.not_lt.mp h]
  | error e => simp
  | halt => simp

/-- Comparing neighbours orders the whole list. -/
theorem pairwise_cons_of_head {a b : Address} {rest : List Address} (hle : a ≤ b)
    (h : (b :: rest).Pairwise (· ≤ ·)) : (a :: b :: rest).Pairwise (· ≤ ·) := by
  refine List.pairwise_cons.mpr ⟨?_, h⟩
  intro c hc
  rcases List.mem_cons.mp hc with rfl | hc
  · exact hle
  · exact Address.le_trans hle ((List.pairwise_cons.mp h).1 c hc)

/-- Some records have no defect exactly when their entries are in order, also with the entry in
front of them, and the descriptor and the name of each of them are in order. -/
theorem issuesFrom_eq_nil_iff :
    t.issuesFrom index previous records = .ok [] ↔
      (previous.toList ++ records.map Record.entry).Pairwise (· ≤ ·) ∧
        ∀ record ∈ records,
          (∃ d, t.descriptor record.metadataOffset = .ok d ∧ d.entry = record.entry) ∧
            ∃ name, t.name record.metadataOffset = .ok name := by
  induction records generalizing index previous with
  | nil => cases previous <;> simp [issuesFrom]
  | cons record rest ih =>
    rw [issuesFrom, List.forall_mem_cons]
    simp only [Outcome.bind_eq_ok_iff, Outcome.pure_def, Outcome.ok.injEq, List.append_eq_nil_iff]
    constructor
    · rintro ⟨_, hdescriptor, _, hname, _, hlater, ⟨⟨horder, rfl⟩, rfl⟩, rfl⟩
      obtain ⟨hsorted, hrest⟩ := ih.mp hlater
      refine ⟨?_, ⟨descriptorIssues_eq_nil_iff.mp hdescriptor, nameIssues_eq_nil_iff.mp hname⟩,
        hrest⟩
      cases previous with
      | none => exact hsorted
      | some before =>
        exact pairwise_cons_of_head (orderIssues_eq_nil_iff.mp horder before rfl) hsorted
    · rintro ⟨hsorted, ⟨hdescriptor, hname⟩, hrest⟩
      refine ⟨[], descriptorIssues_eq_nil_iff.mpr hdescriptor, [],
        nameIssues_eq_nil_iff.mpr hname, [], ih.mpr ⟨?_, hrest⟩, ⟨⟨?_, rfl⟩, rfl⟩, rfl⟩
      · exact (List.pairwise_append.mp hsorted).2.1
      · apply orderIssues_eq_nil_iff.mpr
        rintro before rfl
        exact (List.pairwise_cons.mp hsorted).1 _ (List.mem_cons_self ..)

/-- All records are read exactly if the walk along the table ends without a failure. -/
theorem allRecords_eq_ok_iff : t.allRecords = .ok records ↔ t.records = (records, .ok ()) := by
  rw [allRecords]
  cases h : t.records with
  | mk all ending =>
    cases ending with
    | ok u => simp
    | error e => simp
    | halt => simp

/-- An audit is clean exactly when all records are read and none of them, nor the one behind them,
has a defect. -/
theorem audit_eq_ok_and_isClean_iff {a : Audit} :
    t.audit = .ok a ∧ a.isClean = true ↔
      ∃ records, t.records = (records, .ok ()) ∧ t.issuesFrom 0 none records = .ok [] ∧
        t.sentinelIssues (records.getLast?.map Record.entry) = .ok [] ∧
        { header := t.header, checked := records.length, issues := [] } = a := by
  rw [audit]
  simp only [Outcome.bind_eq_ok_iff, Outcome.pure_def, Outcome.ok.injEq, allRecords_eq_ok_iff]
  constructor
  · rintro ⟨⟨records, hrecords, issues, hissues, ofSentinel, hsentinel, rfl⟩, hclean⟩
    obtain ⟨rfl, rfl⟩ := List.append_eq_nil_iff.mp (List.isEmpty_iff.mp hclean)
    exact ⟨records, hrecords, hissues, hsentinel, rfl⟩
  · rintro ⟨records, hrecords, hissues, hsentinel, rfl⟩
    exact ⟨⟨records, hrecords, [], hissues, [], hsentinel, rfl⟩, rfl⟩

/-- An audit without a defect finds a sound image, and has read all of its records. -/
theorem isSound_of_audit {a : Audit} (hw : IsWordSize t.header.pointerSize)
    (h : t.audit = .ok a) (hclean : a.isClean = true) : t.IsSound ∧ a.checked = t.count := by
  obtain ⟨records, hrecords, hissues, hsentinel, rfl⟩ :=
    audit_eq_ok_and_isClean_iff.mp ⟨h, hclean⟩
  obtain ⟨hread, rfl⟩ := (records_eq_ok_iff hw).mp hrecords
  obtain ⟨hsorted, hparts⟩ := issuesFrom_eq_nil_iff.mp hissues
  obtain ⟨sentinel, hend, hlast⟩ := sentinelIssues_eq_nil_iff.mp hsentinel
  have hmem (i : Nat) (hi : i < t.count) : t.recordAt i ∈ (List.range t.count).map t.recordAt :=
    List.mem_map_of_mem (List.mem_range.mpr hi)
  have hfits : t.HasRecord t.count := by
    apply Decidable.byContradiction
    intro hnot
    rw [endOfText, record_of_not_hasRecord hnot] at hend
    cases hend
  rw [endOfText_of_hasRecord hw hfits] at hend
  cases hend
  have hentries : ((List.range t.count).map t.entryAt).Pairwise (· ≤ ·) := by
    rwa [List.map_map] at hsorted
  have hpair (i j : Nat) (hij : i ≤ j) (hj : j < t.count) : t.entryAt i ≤ t.entryAt j := by
    rcases Nat.lt_or_eq_of_le hij with hlt | rfl
    · have hle := List.pairwise_iff_getElem.mp hentries i j
        (by rw [List.length_map, List.length_range]; omega)
        (by rw [List.length_map, List.length_range]; exact hj) hlt
      rwa [List.getElem_map, List.getElem_map, List.getElem_range, List.getElem_range] at hle
    · exact Address.le_refl _
  refine ⟨⟨hw, hfits, ?_, fun i hi ↦ (hparts _ (hmem i hi)).1, fun i hi ↦ (hparts _ (hmem i hi)).2⟩,
    ?_⟩
  · intro i j hij hj
    rcases Nat.lt_or_eq_of_le hj with hlt | rfl
    · exact hpair i j hij hlt
    · rcases Nat.lt_or_eq_of_le hij with hlt | rfl
      · refine Address.le_trans (hpair i (t.count - 1) (by omega) (by omega)) (hlast _ ?_)
        rw [List.getLast?_map, List.getLast?_range, if_neg (by omega)]
        rfl
      · exact Address.le_refl _
  · rw [List.length_map, List.length_range]

end Image

namespace Region

variable {r : Region} {t : Image}

/-- The audit of a region is that of the image it holds. -/
theorem audit_of_ofRegion (h : Image.ofRegion r = .ok t) : r.audit = t.audit := by
  rw [audit, h]
  rfl

/-- A region that is audited holds an image. -/
theorem exists_image_of_audit {a : Audit} (h : r.audit = .ok a) :
    ∃ t, Image.ofRegion r = .ok t ∧ t.audit = .ok a := by
  cases hr : Image.ofRegion r with
  | ok t =>
    rw [audit_of_ofRegion hr] at h
    exact ⟨t, rfl, h⟩
  | error e =>
    rw [audit, hr] at h
    cases h

end Region

end FuncMeta
