import FuncMeta.Image.Cursor
import FuncMeta.Address
import FuncMeta.Proofs.Image.Table

/-!
# Searching by address

The search keeps a bracket: the entry in front of its span does not lie above the address, and the
entry behind it does. The first record and the end of the last function close the bracket at both
ends, so the answer is a record whose code contains the address, on any table whatsoever. Main
statements: `upperBound_spec` and `find?_eq_some`.
-/

namespace FuncMeta

namespace Address

/-- An address that does not lie at or below another lies above it. -/
theorem not_le {a b : Address} : ¬ a ≤ b ↔ b < a := by
  rw [le_iff_toNat_le, lt_iff_toNat_lt, Nat.not_le]

/-- An address that does not lie below another lies at or above it. -/
theorem not_lt {a b : Address} : ¬ a < b ↔ b ≤ a := by
  rw [le_iff_toNat_le, lt_iff_toNat_lt, Nat.not_lt]

/-- The order of addresses is transitive. -/
theorem le_trans {a b c : Address} (hab : a ≤ b) (hbc : b ≤ c) : a ≤ c := by
  rw [le_iff_toNat_le] at *
  exact Nat.le_trans hab hbc

private theorem le_of_lt {a b : Address} (h : a < b) : a ≤ b := by
  rw [le_iff_toNat_le, lt_iff_toNat_lt] at *
  exact Nat.le_of_lt h

/-- The order of addresses is reflexive. -/
theorem le_refl (a : Address) : a ≤ a := le_iff_toNat_le.mpr (Nat.le_refl _)

end Address

namespace Image

variable {t : Image} {pc : Address} {lo hi : Nat}

/-- The entry that the region shows at an index; the one after the last record is the end of the
last function. -/
def entryAt (t : Image) (index : Nat) : Address := (t.recordAt index).entry

/-- The end of the last function is the entry of the record behind the last one. -/
theorem endOfText_of_hasRecord (hw : IsWordSize t.header.pointerSize) (h : t.HasRecord t.count) :
    t.endOfText = .ok (t.entryAt t.count) := by
  rw [endOfText, record_of_hasRecord hw h, Outcome.map_ok, entryAt]

/-- The number of functions is a word. -/
theorem count_lt (t : Image) : t.count < Word.limit := t.header.functionCount.toNat_lt

/-- Whatever the order of the entries, halving a span ends at a place with an entry in front of it
that does not lie above the address and one behind it that does, the ends of the span apart. -/
theorem upperBound_spec (pc : Address) (hw : IsWordSize t.header.pointerSize)
    (h : ∀ i, i < hi → t.HasRecord i) (hle : lo ≤ hi) (hcount : hi ≤ t.count) :
    ∃ bound, t.upperBound pc lo hi = .ok bound ∧ lo ≤ bound ∧ bound ≤ hi ∧
      (bound = lo ∨ t.entryAt (bound - 1) ≤ pc) ∧ (bound = hi ∨ pc < t.entryAt bound) := by
  have hlimit := t.count_lt
  induction hn : hi - lo using Nat.strongRecOn generalizing lo hi with
  | ind n ih =>
    rw [upperBound]
    by_cases hlt : lo < hi
    · let mid := lo + (hi - lo) / 2
      have hlo : lo ≤ mid := Nat.le_add_right ..
      have hhi : mid < hi := by dsimp only [mid]; omega
      rw [if_pos hlt]
      dsimp only
      rw [Word.fit_of_lt (by exact (by omega : mid < Word.limit)), Outcome.ok_bind,
        record_of_hasRecord hw (h mid hhi), Outcome.ok_bind]
      show ∃ bound, (if t.entryAt mid ≤ pc then _ else _) = _ ∧ _
      by_cases hentry : t.entryAt mid ≤ pc
      · rw [if_pos hentry, Word.fit_of_lt (by exact (by omega : mid + 1 < Word.limit)),
          Outcome.ok_bind]
        obtain ⟨bound, hb, hge, hle, hbelow, habove⟩ :=
          ih (hi - (mid + 1)) (by omega) h (by omega : mid + 1 ≤ hi) hcount rfl
        refine ⟨bound, hb, by omega, hle, .inr ?_, habove⟩
        rcases hbelow with rfl | hbelow
        · exact hentry
        · exact hbelow
      · rw [if_neg hentry]
        obtain ⟨bound, hb, hge, hle, hbelow, habove⟩ :=
          ih (mid - lo) (by omega) (fun i hi ↦ h i (by omega)) hlo (by omega) rfl
        refine ⟨bound, hb, hge, by omega, hbelow, .inr ?_⟩
        rcases habove with rfl | habove
        · exact Address.not_le.mp hentry
        · exact habove
    · rw [if_neg hlt]
      exact ⟨lo, rfl, Nat.le_refl _, hle, .inl rfl, .inl (by omega)⟩

/-- An address below the first entry, or not below the end of the last function, lies in no
function. -/
theorem find?_eq_none (hw : IsWordSize t.header.pointerSize) (h : t.HasRecord t.count)
    (hout : t.count = 0 ∨ pc < t.entryAt 0 ∨ t.entryAt t.count ≤ pc) : t.find? pc = .ok none := by
  rw [find?]
  by_cases hzero : t.count = 0
  · rw [if_pos hzero]
  · rw [if_neg hzero, record_of_hasRecord hw (h.of_le (Nat.zero_le _)), Outcome.ok_bind,
      endOfText_of_hasRecord hw h, Outcome.ok_bind, if_pos (by exact hout.resolve_left hzero)]
    rfl

/-- Between the first entry and the end of the last function, halving ends behind a record whose
code contains the address. -/
theorem exists_upperBound_eq (hw : IsWordSize t.header.pointerSize) (h : t.HasRecord t.count)
    (hcount : t.count ≠ 0) (hfirst : t.entryAt 0 ≤ pc) (hlast : pc < t.entryAt t.count) :
    ∃ index, t.upperBound pc 0 t.count = .ok (index + 1) ∧ index < t.count ∧
      t.entryAt index ≤ pc ∧ pc < t.entryAt (index + 1) := by
  obtain ⟨bound, hb, -, hle, hbelow, habove⟩ := upperBound_spec pc hw
    (fun i hi ↦ h.of_le (Nat.le_of_lt hi)) (Nat.zero_le _) (Nat.le_refl _)
  -- The first entry keeps the bound from 0, the end of the last function stands at `count`.
  have hpos : bound ≠ 0 := by
    rintro rfl
    rcases habove with hzero | habove
    · exact hcount hzero.symm
    · exact Address.not_le.mpr habove hfirst
  have hupper : pc < t.entryAt bound := by
    rcases habove with rfl | habove
    · exact hlast
    · exact habove
  have hnext : bound - 1 + 1 = bound := by omega
  exact ⟨bound - 1, by rwa [hnext], by omega, hbelow.resolve_left hpos, by rwa [hnext]⟩

/-- The search gives the record that halving ends behind, if its code contains the address. -/
theorem find?_of_upperBound (hw : IsWordSize t.header.pointerSize) (h : t.HasRecord t.count)
    (hfirst : t.entryAt 0 ≤ pc) (hlast : pc < t.entryAt t.count) {index : Nat}
    (hb : t.upperBound pc 0 t.count = .ok (index + 1)) (hindex : index < t.count)
    (hlower : t.entryAt index ≤ pc) (hupper : pc < t.entryAt (index + 1)) :
    t.find? pc = .ok (some
      { index, record := t.recordAt index,
        range := { start := t.entryAt index, stop := t.entryAt (index + 1) } }) := by
  have hread (i : Nat) (hi : i ≤ t.count) : t.HasRecord i := h.of_le hi
  have hrange : (AddressRange.ofBounds? (t.recordAt index).entry
      (t.recordAt (index + 1)).entry).filter (·.contains pc) =
      some { start := t.entryAt index, stop := t.entryAt (index + 1) } := by
    rw [← entryAt, ← entryAt,
      AddressRange.ofBounds?_of_le (Address.le_trans hlower (Address.le_of_lt hupper)),
      Option.filter_some, if_pos (AddressRange.contains_iff.mpr ⟨hlower, hupper⟩)]
  have hinside : ¬ (pc < t.entryAt 0 ∨ t.entryAt t.count ≤ pc) :=
    not_or.mpr ⟨Address.not_lt.mpr hfirst, Address.not_le.mpr hlast⟩
  rw [find?, if_neg (by omega), record_of_hasRecord hw (hread 0 (Nat.zero_le _)), Outcome.ok_bind,
    endOfText_of_hasRecord hw h, Outcome.ok_bind, if_neg (by exact hinside), hb, Outcome.ok_bind]
  dsimp only
  rw [Nat.add_sub_cancel, record_of_hasRecord hw (hread index (Nat.le_of_lt hindex)),
    Outcome.ok_bind, Word.fit_of_lt (Nat.lt_of_le_of_lt hindex t.count_lt), Outcome.ok_bind]
  by_cases heq : index + 1 = t.count
  · rw [if_pos heq, Outcome.pure_def, Outcome.ok_bind, ← heq, entryAt, hrange]
    rfl
  · rw [if_neg heq, record_of_hasRecord hw (hread (index + 1) hindex), Outcome.map_ok,
      Outcome.ok_bind]
    rw [hrange]
    rfl

/-- Any other address lies between the entry of some record and the entry after it, and the search
finds such a record. -/
theorem find?_eq_some (hw : IsWordSize t.header.pointerSize) (h : t.HasRecord t.count)
    (hcount : t.count ≠ 0) (hfirst : t.entryAt 0 ≤ pc) (hlast : pc < t.entryAt t.count) :
    ∃ index, index < t.count ∧ t.entryAt index ≤ pc ∧ pc < t.entryAt (index + 1) ∧
      t.find? pc = .ok (some
        { index, record := t.recordAt index,
          range := { start := t.entryAt index, stop := t.entryAt (index + 1) } }) := by
  obtain ⟨index, hb, hindex, hlower, hupper⟩ := exists_upperBound_eq hw h hcount hfirst hlast
  exact ⟨index, hindex, hlower, hupper,
    find?_of_upperBound hw h hfirst hlast hb hindex hlower hupper⟩

end Image

end FuncMeta
