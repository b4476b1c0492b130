import FuncMeta.Proofs.Image.Failure
import FuncMeta.Proofs.Image.Hostile

/-!
# Searching a table in no order

The search relies on a sorted table and promises nothing else, but what it gives is settled on any
table: it reads the first record and the one after the last, and fails only if one of them is
missing. Those two close the bracket that halving keeps, so the record that is found always contains
the address, and a table out of order is never reported. Main statement: `find?_of_any_order`.
-/

namespace FuncMeta.Image

variable {t : Image} {pc : Address}

/-- Without the first record there is nothing to search. -/
theorem find?_of_not_hasRecord_zero (hcount : t.count ≠ 0) (hfirst : ¬ t.HasRecord 0) :
    t.find? pc = .error (.truncatedTable 0 t.count) := by
  rw [find?, if_neg hcount, record_of_not_hasRecord hfirst]
  rfl

/-- Without the record after the last one the end of the last function is missing. -/
theorem find?_of_not_hasRecord_count (hw : IsWordSize t.header.pointerSize) (hcount : t.count ≠ 0)
    (hfirst : t.HasRecord 0) (hlast : ¬ t.HasRecord t.count) :
    t.find? pc = .error (.truncatedTable t.count (Word.saturate (t.count + 1))) := by
  rw [find?, if_neg hcount, record_of_hasRecord hw hfirst, Outcome.ok_bind, endOfText,
    record_of_not_hasRecord hlast]
  rfl

/-- A search fails exactly when there is a function, but not the record after the last one. -/
theorem exists_find?_eq_error_iff (hw : IsWordSize t.header.pointerSize) :
    (∃ e, t.find? pc = .error e) ↔ t.count ≠ 0 ∧ ¬ t.HasRecord t.count := by
  constructor
  · rintro ⟨e, he⟩
    refine ⟨?_, ?_⟩
    · intro hzero
      rw [find?, if_pos hzero] at he
      cases he
    · intro hlast
      obtain ⟨found, hfound⟩ := exists_find?_eq_ok hw hlast pc
      rw [hfound] at he
      cases he
  · rintro ⟨hcount, hlast⟩
    by_cases hfirst : t.HasRecord 0
    · exact ⟨_, find?_of_not_hasRecord_count hw hcount hfirst hlast⟩
    · exact ⟨_, find?_of_not_hasRecord_zero hcount hfirst⟩

/-- Nothing is found exactly outside the first entry and the end of the last function. -/
theorem find?_eq_none_iff (hw : IsWordSize t.header.pointerSize) (hcount : t.count ≠ 0)
    (hlast : t.HasRecord t.count) :
    t.find? pc = .ok none ↔ pc < t.entryAt 0 ∨ t.entryAt t.count ≤ pc := by
  by_cases hout : pc < t.entryAt 0 ∨ t.entryAt t.count ≤ pc
  · exact iff_of_true (find?_eq_none hw hlast (.inr hout)) hout
  · obtain ⟨hfirst, hend⟩ := not_or.mp hout
    obtain ⟨index, -, -, -, hfound⟩ := find?_eq_some hw hlast hcount (Address.not_lt.mp hfirst)
      (Address.not_le.mp hend)
    rw [hfound]
    exact iff_of_false nofun hout

/-- A slot joins a record with the code up to the next record's entry. -/
def IsSlot (t : Image) (slot : Slot) : Prop :=
  slot.index < t.count ∧ slot.record = t.recordAt slot.index ∧
    slot.range = { start := slot.record.entry, stop := t.entryAt (slot.index + 1) }

/-- On a table in any order a search gives a result, which is one of these. Nothing is found if
there is no function. Otherwise the search fails exactly when the record after the last function
does not lie in the region: it names the first record if even that one does not, and else the
record after the last. If that record lies in the region, all records are read; nothing is found
exactly below the first entry and from the end of the last function on, and any other address is
found in a function whose code contains it. That the table is out of order is never said. -/
theorem find?_of_any_order (hw : IsWordSize t.header.pointerSize) (hlimit : t.count < Word.half)
    (pc : Address) :
    t.find? pc ≠ .halt ∧
      (t.count = 0 → t.find? pc = .ok none) ∧
      ((∃ e, t.find? pc = .error e) ↔ t.count ≠ 0 ∧ ¬ t.HasRecord t.count) ∧
      (t.count ≠ 0 → ¬ t.HasRecord 0 → t.find? pc = .error (.truncatedTable 0 t.count)) ∧
      (t.count ≠ 0 → t.HasRecord 0 → ¬ t.HasRecord t.count →
        t.find? pc = .error (.truncatedTable t.count (t.count + 1))) ∧
      (t.count ≠ 0 → t.HasRecord t.count →
        (∀ index ≤ t.count, ∀ count, t.record index count = .ok (t.recordAt index)) ∧
          (t.find? pc = .ok none ↔ pc < t.entryAt 0 ∨ t.entryAt t.count ≤ pc) ∧
          (t.entryAt 0 ≤ pc → pc < t.entryAt t.count →
            ∃ slot, t.find? pc = .ok (some slot) ∧ t.IsSlot slot ∧
              slot.range.contains pc = true)) ∧
      ∀ index, t.find? pc ≠ .error (.unorderedTable index) := by
  refine ⟨find?_ne_halt t pc, ?_, exists_find?_eq_error_iff hw, find?_of_not_hasRecord_zero, ?_, ?_,
    ?_⟩
  · intro hzero
    rw [find?, if_pos hzero]
  · intro hcount hfirst hlast
    have hhalf : Word.half < Word.limit := by decide
    have hnext : Word.saturate (t.count + 1) = t.count + 1 := Nat.min_eq_left (by omega)
    rw [find?_of_not_hasRecord_count hw hcount hfirst hlast, hnext]
  · intro hcount hlast
    refine ⟨?_, find?_eq_none_iff hw hcount hlast, ?_⟩
    · intro index hle count
      exact record_of_hasRecord hw (hlast.of_le hle)
    · intro hfirst hend
      obtain ⟨index, hindex, hle, hlt, hfound⟩ := find?_eq_some hw hlast hcount hfirst hend
      exact ⟨_, hfound, ⟨hindex, rfl, rfl⟩, AddressRange.contains_iff.mpr ⟨hle, hlt⟩⟩
  · intro index he
    obtain ⟨other, count, hother⟩ := find?_failsOnly hw pc _ he
    cases hother

/-- Three functions whose entries `0x3000`, `0x1000` and `0x2000` are in no order, up to `0x4000`.
-/
def unsortedTable : Image where
  region :=
    { bytes := ⟨([0x3000, 0, 0x1000, 0, 0x2000, 0, 0x4000, 0].flatMap
        (LittleEndian.encode 4)).toArray⟩
      size_lt := by decide }
  header := { sampleHeader with functionCount := 3, functionTableOffset := 0 }

/-- In that table `0x3800` is found in the last function, which runs from `0x2000` to `0x4000`. -/
theorem find?_of_any_order_unsorted :
    IsWordSize unsortedTable.header.pointerSize ∧ unsortedTable.count < Word.half ∧
      unsortedTable.HasRecord unsortedTable.count ∧
      ∃ slot, unsortedTable.find? ⟨0x3800⟩ = .ok (some slot) ∧ unsortedTable.IsSlot slot ∧
        slot.range.contains ⟨0x3800⟩ = true := by
  have hw : IsWordSize unsortedTable.header.pointerSize := by decide
  have hlimit : unsortedTable.count < Word.half := by decide
  have hlast : unsortedTable.HasRecord unsortedTable.count := by decide
  obtain ⟨-, -, -, -, -, hin, -⟩ := find?_of_any_order hw hlimit ⟨0x3800⟩
  obtain ⟨-, -, hsome⟩ := hin (by decide) hlast
  exact ⟨hw, hlimit, hlast, hsome (by decide +kernel) (by decide +kernel)⟩

end FuncMeta.Image
