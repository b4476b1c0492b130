import FuncMeta.Proofs.Image.Descriptor
import FuncMeta.Proofs.Image.Search

/-!
# Arbitrary headers

A region may be read under any header at all, with words of any size, tables anywhere and as many
functions as a word can count. No decoder then leaves the words of the machine: what is not checked
in front of an operation follows from an earlier check, from the size of the region or from an
invariant of the walk or the search. Main statement: `ne_halt_of_any_header`.
-/

namespace FuncMeta

namespace TableKind

/-- A declared table has a place in the declared order, and the tables behind that place are those
that are declared later. -/
theorem later_eq_drop_idxOf : ∀ kind ∈ declared,
    declared.idxOf kind + 1 ≤ declared.length ∧
      kind.later = declared.drop (declared.idxOf kind + 1) := by
  decide

end TableKind

namespace Region

variable {r : Region} {offset length stop : Nat}

/-- A slice lies in the region and has the length that was asked for. -/
theorem size_of_slice {part : Region} (h : r.slice offset length = .ok part) :
    offset + length ≤ r.size ∧ part.size = length := by
  rw [slice] at h
  split at h
  · next hle =>
    cases h
    rw [size_extract]
    omega
  · cases h

/-- A string and the zero behind it lie in front of the given end, and that end in the region. -/
theorem size_of_readCString {found : Region} (h : r.readCString offset stop = .ok found) :
    offset + found.size < stop ∧ stop ≤ r.size := by
  obtain ⟨hstop, place, hlt, hfirst, rfl⟩ := readCString_eq_ok_iff.mp h
  have hle := hfirst.le
  rw [size_extract]
  omega

end Region

namespace Image

variable {t : Image} {pc : Address} {lo hi : Nat}

private theorem get?_ne_halt (t : Image) (index : Nat) : t.get? index ≠ .halt := by
  rw [get?]
  split
  · exact Outcome.map_ne_halt (record_ne_halt _ _ _)
  · exact Outcome.ok_ne_halt _

private theorem endOfText_ne_halt (t : Image) : t.endOfText ≠ .halt :=
  Outcome.map_ne_halt (record_ne_halt _ _ _)

/-- A span of records is halved within the words of the machine, and what is left of it stays
inside, even if the entries are in no order. -/
theorem upperBound_ne_halt (pc : Address) (hle : lo ≤ hi) (hcount : hi ≤ t.count) :
    t.upperBound pc lo hi ≠ .halt ∧ ∀ bound, t.upperBound pc lo hi = .ok bound → bound ≤ hi := by
  have hlimit := t.count_lt
  induction hn : hi - lo using Nat.strongRecOn generalizing lo hi with
  | ind n ih =>
    rw [upperBound]
    by_cases hlt : lo < hi
    · have hmid : lo + (hi - lo) / 2 < hi := by omega
      rw [if_pos hlt]
      dsimp only
      rw [Word.fit_of_lt (by exact (by omega : lo + (hi - lo) / 2 < Word.limit)), Outcome.ok_bind]
      cases hrecord : t.record (lo + (hi - lo) / 2) t.count with
      | ok record =>
        rw [Outcome.ok_bind]
        by_cases hentry : record.entry ≤ pc
        · rw [if_pos hentry,
            Word.fit_of_lt (by exact (by omega : lo + (hi - lo) / 2 + 1 < Word.limit)),
            Outcome.ok_bind]
          exact ih _ (by omega) (by omega) hcount rfl
        · rw [if_neg hentry]
          obtain ⟨hhalt, hbound⟩ := ih (lo + (hi - lo) / 2 - lo) (by omega)
            (by omega : lo ≤ lo + (hi - lo) / 2) (by omega) rfl
          exact ⟨hhalt, fun bound hb ↦ Nat.le_trans (hbound bound hb) (Nat.le_of_lt hmid)⟩
      | error e =>
        refine ⟨Outcome.error_ne_halt _, ?_⟩
        rintro bound ⟨⟩
      | halt => exact absurd hrecord (record_ne_halt _ _ _)
    · rw [if_neg hlt]
      refine ⟨Outcome.ok_ne_halt _, ?_⟩
      rintro bound ⟨⟩
      exact hle

/-- A search stays within the words of the machine. -/
theorem find?_ne_halt (t : Image) (pc : Address) : t.find? pc ≠ .halt := by
  rw [find?]
  split
  · exact Outcome.ok_ne_halt _
  · next hcount =>
    refine Outcome.bind_ne_halt (record_ne_halt _ _ _) ?_
    intro first _
    refine Outcome.bind_ne_halt (endOfText_ne_halt t) ?_
    intro endOfText _
    split
    · exact Outcome.ok_ne_halt _
    · obtain ⟨hhalt, hbound⟩ := upperBound_ne_halt pc (Nat.zero_le t.count) (Nat.le_refl _)
      refine Outcome.bind_ne_halt hhalt ?_
      intro bound hb
      have hle := hbound bound hb
      have hlimit := t.count_lt
      refine Outcome.bind_ne_halt (record_ne_halt _ _ _) ?_
      intro record _
      rw [Word.fit_of_lt (by exact (by omega : bound - 1 + 1 < Word.limit)), Outcome.ok_bind]
      dsimp only
      split
      · rw [Outcome.pure_def, Outcome.ok_bind]
        split
        · exact Outcome.ok_ne_halt _
        · exact Outcome.error_ne_halt _
      · refine Outcome.bind_ne_halt (Outcome.map_ne_halt (record_ne_halt _ _ _)) ?_
        intro stop _
        split
        · exact Outcome.ok_ne_halt _
        · exact Outcome.error_ne_halt _

end Image

namespace Cursor

/-- A cursor has not gone beyond the last record. -/
def IsInside (c : Cursor) : Prop := c.index ≤ c.image.count

private theorem isInside_start (t : Image) : (start t).IsInside := Nat.zero_le _

/-- A call to a cursor inside the table does not halt, and leaves the cursor inside. -/
theorem IsInside.next {c : Cursor} (h : c.IsInside) : c.next.1 ≠ .halt ∧ c.next.2.IsInside := by
  rw [Cursor.next]
  split
  · exact ⟨Outcome.ok_ne_halt _, h⟩
  · next hmore =>
    have hlt : c.index < c.image.count := Nat.lt_of_not_le (not_or.mp hmore).2
    have hlimit := c.image.count_lt
    rw [Word.fit_of_lt (by exact (by omega : c.index + 1 < Word.limit))]
    cases hrecord : c.image.record c.index c.image.count with
    | ok record => exact ⟨Outcome.ok_ne_halt _, hlt⟩
    | error e => exact ⟨Outcome.error_ne_halt _, h⟩
    | halt => exact absurd hrecord (Image.record_ne_halt _ _ _)

/-- After any number of calls a cursor is inside the table. -/
theorem isInside_advance (t : Image) (n : Nat) : ((start t).advance n).IsInside := by
  induction n with
  | zero => exact isInside_start t
  | succ n ih => exact ih.next.2

/-- Of a cursor inside the table the number of records to come is known. -/
theorem IsInside.sizeHint_ne_halt {ε : Type} {c : Cursor} (h : c.IsInside) :
    (c.sizeHint : Outcome ε (Nat × Nat)) ≠ .halt := by
  rw [sizeHint]
  split
  · exact Outcome.ok_ne_halt _
  · rw [Word.sub_of_le h]
    exact Outcome.ok_ne_halt _

end Cursor

/-- Under any header whatsoever no decoder halts: not at a record, at the end of the last function,
in a search by address, at any step of a walk along the table or in its bound on the records to
come, and not at a descriptor or a name. A table ends in the region, behind a place in the declared
order; slices and strings lie in the region. -/
theorem Image.ne_halt_of_any_header (t : Image) :
    (∀ index, t.get? index ≠ .halt) ∧
      t.endOfText ≠ .halt ∧
      (∀ pc, t.find? pc ≠ .halt) ∧
      (∀ n, ((Cursor.start t).advance n).next.1 ≠ .halt ∧
        ∀ ε : Type, (((Cursor.start t).advance n).sizeHint : Outcome ε (Nat × Nat)) ≠ .halt) ∧
      (∀ m, t.nameOffset m ≠ .halt) ∧
      (∀ m, t.descriptor m ≠ .halt) ∧
      (∀ m, t.name m ≠ .halt) ∧
      (∀ offset, t.nameAt offset ≠ .halt) ∧
      (∀ kind, t.header.tableEnd kind t.region.size ≤ t.region.size) ∧
      (∀ kind ∈ TableKind.declared,
        TableKind.declared.idxOf kind + 1 ≤ TableKind.declared.length ∧
          kind.later = TableKind.declared.drop (TableKind.declared.idxOf kind + 1)) ∧
      (∀ offset length part, t.region.slice offset length = .ok part →
        offset + length ≤ t.region.size ∧ part.size = length) ∧
      ∀ offset stop found, t.region.readCString offset stop = .ok found →
        offset + found.size < stop ∧ stop ≤ t.region.size := by
  refine ⟨get?_ne_halt t, endOfText_ne_halt t, find?_ne_halt t, ?_, nameOffset_ne_halt t,
    descriptor_ne_halt t, name_ne_halt t, nameAt_ne_halt t,
    fun kind ↦ t.header.tableEnd_le kind t.region.size, TableKind.later_eq_drop_idxOf,
    fun _ _ _ ↦ Region.size_of_slice, fun _ _ _ ↦ Region.size_of_readCString⟩
  intro n
  have hinside := Cursor.isInside_advance t n
  exact ⟨hinside.next.1, fun ε ↦ hinside.sizeHint_ne_halt⟩

end FuncMeta
