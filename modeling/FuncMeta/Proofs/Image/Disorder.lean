import FuncMeta.Proofs.Image.Audit

/-!
# What an audit finds in an image that can be decoded

If every part of an image can be decoded and every descriptor repeats the entry of its record, only
the order of the entries is left to object to. The audit then lists the places where the entries
descend, and the end of the last function if it lies below the last entry. Main statement:
`IsDecodable.audit_eq`.
-/

namespace FuncMeta

/-- The defect of an entry, at an index, that lies below the one in front of it. -/
def descent? : (Address × Address) × Nat → Option Issue
  | ((before, entry), index) =>
    if entry < before then some (.unordered index before entry) else none

/-- The places where entries descend, the second of which has the given index. -/
def descentsFrom (index : Nat) (entries : List Address) : List Issue :=
  ((entries.zip entries.tail).zipIdx index).filterMap descent?

/-- The places where entries descend: each index at which an entry lies below the one in front of
it. -/
def descents (entries : List Address) : List Issue := descentsFrom 1 entries

/-- The defect of an end of the last function that lies below the last entry. -/
def endIssues (sentinel : Address) (entries : List Address) : List Issue :=
  match entries.getLast? with
  | some last => if sentinel < last then [.sentinelBeforeLastEntry sentinel last] else []
  | none => []

section

variable {index : Nat} {before entry sentinel : Address} {entries rest : List Address}
  {issue : Issue}

/-- Of the first two entries it is said whether they descend. -/
theorem descentsFrom_cons_cons :
    descentsFrom index (before :: entry :: rest) =
      Image.orderIssues index (some before) entry ++ descentsFrom (index + 1) (entry :: rest) := by
  rw [descentsFrom, List.tail_cons, List.zip_cons_cons, List.zipIdx_cons, Image.orderIssues]
  by_cases h : entry < before
  · have hsome : descent? ((before, entry), index) = some (.unordered index before entry) :=
      if_pos h
    rw [List.filterMap_cons_some hsome, if_pos h]
    rfl
  · have hnone : descent? ((before, entry), index) = none := if_neg h
    rw [List.filterMap_cons_none hnone, if_neg h]
    rfl

/-- Entries that descend nowhere are in order. -/
theorem descentsFrom_eq_nil_iff : descentsFrom index entries = [] ↔ entries.Pairwise (· ≤ ·) := by
  induction entries generalizing index with
  | nil => exact iff_of_true rfl .nil
  | cons before entries ih =>
    cases entries with
    | nil => exact iff_of_true rfl (List.pairwise_singleton ..)
    | cons entry rest =>
      rw [descentsFrom_cons_cons, List.append_eq_nil_iff, ih, Image.orderIssues_eq_nil_iff]
      constructor
      · rintro ⟨hle, hsorted⟩
        exact Image.pairwise_cons_of_head (hle before rfl) hsorted
      · intro hsorted
        obtain ⟨hle, hrest⟩ := List.pairwise_cons.mp hsorted
        refine ⟨?_, hrest⟩
        rintro _ ⟨⟩
        exact hle entry List.mem_cons_self

/-- The descents are at the indices whose entry lies below the one in front of it. -/
theorem mem_descents_iff :
    issue ∈ descents entries ↔ ∃ i, ∃ hi : i + 1 < entries.length, entries[i + 1] < entries[i] ∧
      issue = .unordered (i + 1) entries[i] entries[i + 1] := by
  rw [descents, descentsFrom, List.mem_filterMap]
  constructor
  · rintro ⟨⟨⟨before, entry⟩, index⟩, hmem, hissue⟩
    obtain ⟨hpos, hpair⟩ := List.mk_mem_zipIdx_iff_le_and_getElem?_sub.mp hmem
    obtain ⟨i, rfl⟩ := Nat.exists_eq_add_of_le' hpos
    rw [Nat.add_sub_cancel] at hpair
    obtain ⟨hbefore, hentry⟩ := List.getElem?_zip_eq_some.mp hpair
    rw [List.getElem?_tail] at hentry
    obtain ⟨_, rfl⟩ := List.getElem?_eq_some_iff.mp hbefore
    obtain ⟨hi, rfl⟩ := List.getElem?_eq_some_iff.mp hentry
    rw [descent?] at hissue
    split at hissue
    · next hlt =>
      cases hissue
      exact ⟨i, hi, hlt, rfl⟩
    · cases hissue
  · rintro ⟨i, hi, hlt, rfl⟩
    refine ⟨((entries[i], entries[i + 1]), i + 1), ?_, if_pos hlt⟩
    apply List.mk_mem_zipIdx_iff_le_and_getElem?_sub.mpr
    refine ⟨Nat.le_add_left 1 i, List.getElem?_zip_eq_some.mpr ⟨?_, ?_⟩⟩
    · exact List.getElem?_eq_getElem _
    · rw [Nat.add_sub_cancel, List.getElem?_tail]
      exact List.getElem?_eq_getElem hi

/-- The end of the last function is a defect exactly when it lies below the last entry. -/
theorem mem_endIssues_iff :
    issue ∈ endIssues sentinel entries ↔ ∃ last, entries.getLast? = some last ∧ sentinel < last ∧
      issue = .sentinelBeforeLastEntry sentinel last := by
  rw [endIssues]
  cases entries.getLast? with
  | none => simp
  | some last => by_cases h : sentinel < last <;> simp [h]

/-- The end has no defect exactly if it does not lie below the last of the entries. -/
theorem endIssues_eq_nil_iff :
    endIssues sentinel entries = [] ↔ ∀ last, entries.getLast? = some last → last ≤ sentinel := by
  rw [List.eq_nil_iff_forall_not_mem]
  simp only [mem_endIssues_iff]
  constructor
  · intro hnone last hlast
    apply Address.not_lt.mp
    intro hlt
    exact hnone _ ⟨last, hlast, hlt, rfl⟩
  · rintro hle issue ⟨last, hlast, hlt, rfl⟩
    exact Address.not_lt.mpr (hle last hlast) hlt

end

namespace Image

variable {t : Image} {index : Nat} {before : Address} {records : List Record}

/-- An image all of whose parts can be decoded. Nothing is asked of the order of its entries. -/
structure IsDecodable (t : Image) : Prop where
  isWordSize : IsWordSize t.header.pointerSize
  hasRecord : t.HasRecord t.count
  descriptor : ∀ i, i < t.count →
    ∃ d, t.descriptor (t.recordAt i).metadataOffset = .ok d ∧ d.entry = t.entryAt i
  name : ∀ i, i < t.count → ∃ name, t.name (t.recordAt i).metadataOffset = .ok name

/-- The entries of the functions. -/
def entries (t : Image) : List Address := (List.range t.count).map t.entryAt

/-- A record that can be decoded is only compared with the entry in front of it. -/
theorem issuesFrom_cons_eq {previous : Option Address} {record : Record} {rest : List Record}
    (hdescriptor : ∃ d, t.descriptor record.metadataOffset = .ok d ∧ d.entry = record.entry)
    (hname : ∃ name, t.name record.metadataOffset = .ok name) :
    t.issuesFrom index previous (record :: rest) =
      (orderIssues index previous record.entry ++ ·) <$>
        t.issuesFrom (index + 1) (some record.entry) rest := by
  rw [issuesFrom, descriptorIssues_eq_nil_iff.mpr hdescriptor, Outcome.ok_bind,
    nameIssues_eq_nil_iff.mpr hname, Outcome.ok_bind, List.append_nil, List.append_nil]
  cases t.issuesFrom (index + 1) (some record.entry) rest <;> rfl

section

variable (hparts : ∀ record ∈ records,
  (∃ d, t.descriptor record.metadataOffset = .ok d ∧ d.entry = record.entry) ∧
    ∃ name, t.name record.metadataOffset = .ok name)

include hparts

/-- Behind an entry, records that can be decoded have no defect but that the entries descend. -/
theorem issuesFrom_some_eq :
    t.issuesFrom index (some before) records =
      .ok (descentsFrom index (before :: records.map Record.entry)) := by
  induction records generalizing index before with
  | nil => rfl
  | cons record rest ih =>
    obtain ⟨⟨hdescriptor, hname⟩, hrest⟩ := List.forall_mem_cons.mp hparts
    rw [issuesFrom_cons_eq hdescriptor hname, ih hrest, Outcome.map_ok, ← descentsFrom_cons_cons,
      List.map_cons]

private theorem issuesFrom_zero_eq :
    t.issuesFrom 0 none records = .ok (descents (records.map Record.entry)) := by
  cases records with
  | nil => rfl
  | cons record rest =>
    obtain ⟨⟨hdescriptor, hname⟩, hrest⟩ := List.forall_mem_cons.mp hparts
    rw [issuesFrom_cons_eq hdescriptor hname, issuesFrom_some_eq hrest, Outcome.map_ok]
    rfl

end

namespace IsDecodable

private theorem sentinelIssues_eq (h : t.IsDecodable) (entries : List Address) :
    t.sentinelIssues entries.getLast? = .ok (endIssues (t.entryAt t.count) entries) := by
  rw [sentinelIssues, endOfText_of_hasRecord h.isWordSize h.hasRecord, endIssues]
  cases entries.getLast? <;> rfl

/-- The audit of an image that can be decoded reads all records and lists where their entries
descend, and then the end of the last function if it lies below the last entry. -/
theorem audit_eq (h : t.IsDecodable) :
    t.audit = .ok
      { header := t.header, checked := t.count,
        issues := descents t.entries ++ endIssues (t.entryAt t.count) t.entries } := by
  have hread : t.allRecords = .ok ((List.range t.count).map t.recordAt) :=
    allRecords_eq_ok_iff.mpr ((records_eq_ok_iff h.isWordSize).mpr
      ⟨fun i hi ↦ h.hasRecord.of_le (Nat.le_of_lt hi), rfl⟩)
  have hparts : ∀ record ∈ (List.range t.count).map t.recordAt,
      (∃ d, t.descriptor record.metadataOffset = .ok d ∧ d.entry = record.entry) ∧
        ∃ name, t.name record.metadataOffset = .ok name := by
    intro record hrecord
    obtain ⟨i, hi, rfl⟩ := List.mem_map.mp hrecord
    exact ⟨h.descriptor i (List.mem_range.mp hi), h.name i (List.mem_range.mp hi)⟩
  have hentries : ((List.range t.count).map t.recordAt).map Record.entry = t.entries :=
    List.map_map
  rw [audit, hread, Outcome.ok_bind, issuesFrom_zero_eq hparts, Outcome.ok_bind,
    ← List.getLast?_map, hentries, h.sentinelIssues_eq, Outcome.ok_bind, List.length_map,
    List.length_range]
  rfl

end IsDecodable

end Image

end FuncMeta
