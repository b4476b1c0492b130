import FuncMeta.Proofs.Image.Audit
import FuncMeta.Proofs.Symbol.Agreement

/-!
# Images that show the same functions

Two images may put their parts in different places and use words of different sizes. If they show
the same entries, and if their descriptors and names read the same, then the search by address takes
the same path in both, whatever the order of the entries, and the audit finds the same defects. A
lookup asks an image for nothing but its entries, its names and what the search by address finds. So
it gives the same answer in both. Main statements: `Resembles.find?_eq`, `Resembles.audit_eq`,
`Resembles.listing`, `Resembles.functionAt_eq` and `Region.audit_of_resembles`.
-/

namespace FuncMeta

namespace Image

/-- Two images whose function tables lie in their regions, with the same entries and with
descriptors that give the same names and the same defects. -/
structure Resembles (t u : Image) : Prop where
  isWordSize_left : IsWordSize t.header.pointerSize
  isWordSize_right : IsWordSize u.header.pointerSize
  hasRecord_left : t.HasRecord t.count
  hasRecord_right : u.HasRecord t.count
  count_eq : t.count = u.count
  entryAt_eq : ∀ i ≤ t.count, t.entryAt i = u.entryAt i
  descriptorIssues_eq : ∀ i < t.count,
    t.descriptorIssues i (t.recordAt i) = u.descriptorIssues i (u.recordAt i)
  name_eq : ∀ i < t.count,
    t.name (t.recordAt i).metadataOffset = u.name (u.recordAt i).metadataOffset

/-- The record at an index with the code up to the next entry. -/
def slotAt (t : Image) (index : Nat) : Slot where
  index := index
  record := t.recordAt index
  range := { start := t.entryAt index, stop := t.entryAt (index + 1) }

namespace Resembles

variable {t u : Image} {lo hi : Nat}

/-- Halving a span compares the same entries with the address. -/
theorem upperBound_eq (h : t.Resembles u) (pc : Address) (hcount : hi ≤ t.count) :
    t.upperBound pc lo hi = u.upperBound pc lo hi := by
  induction hn : hi - lo using Nat.strongRecOn generalizing lo hi with
  | ind n ih =>
    rw [upperBound, upperBound]
    by_cases hlt : lo < hi
    · let mid := lo + (hi - lo) / 2
      have hmid : mid < hi := by dsimp only [mid]; omega
      have hlimit := t.count_lt
      have hle : mid ≤ t.count := Nat.le_trans (Nat.le_of_lt hmid) hcount
      rw [if_pos hlt, if_pos hlt]
      dsimp only
      rw [Word.fit_of_lt (by exact (by omega : mid < Word.limit)), Outcome.ok_bind,
        Outcome.ok_bind, record_of_hasRecord h.isWordSize_left (h.hasRecord_left.of_le hle),
        record_of_hasRecord h.isWordSize_right (h.hasRecord_right.of_le hle), Outcome.ok_bind,
        Outcome.ok_bind]
      show (if t.entryAt mid ≤ pc then _ else _) = if u.entryAt mid ≤ pc then _ else _
      rw [h.entryAt_eq mid hle, ih (hi - (mid + 1)) (by omega) hcount rfl,
        ih (mid - lo) (by omega) (by omega) rfl]
    · rw [if_neg hlt, if_neg hlt]

/-- A search finds nothing in both images, or the record with the same index. -/
theorem find?_eq (h : t.Resembles u) (pc : Address) :
    (t.find? pc = .ok none ∧ u.find? pc = .ok none) ∨
      ∃ index < t.count, t.find? pc = .ok (some (t.slotAt index)) ∧
        u.find? pc = .ok (some (u.slotAt index)) := by
  have hright : u.HasRecord u.count := by
    rw [← h.count_eq]
    exact h.hasRecord_right
  have hfirstEntry := h.entryAt_eq 0 (Nat.zero_le _)
  have hlastEntry := h.entryAt_eq t.count (Nat.le_refl _)
  by_cases hout : t.count = 0 ∨ pc < t.entryAt 0 ∨ t.entryAt t.count ≤ pc
  · refine .inl ⟨find?_eq_none h.isWordSize_left h.hasRecord_left hout, ?_⟩
    rw [h.count_eq] at hlastEntry
    rw [hfirstEntry, h.count_eq, hlastEntry] at hout
    exact find?_eq_none h.isWordSize_right hright hout
  · obtain ⟨hcount, hbetween⟩ := not_or.mp hout
    obtain ⟨hfirst, hlast⟩ := not_or.mp hbetween
    replace hfirst := Address.not_lt.mp hfirst
    replace hlast := Address.not_le.mp hlast
    obtain ⟨index, hb, hindex, hlower, hupper⟩ :=
      exists_upperBound_eq h.isWordSize_left h.hasRecord_left hcount hfirst hlast
    refine .inr ⟨index, hindex, find?_of_upperBound h.isWordSize_left h.hasRecord_left hfirst hlast
      hb hindex hlower hupper, ?_⟩
    -- Halving takes the same turns in the other image, so it ends behind the same index there.
    rw [h.upperBound_eq pc (Nat.le_refl _), h.count_eq] at hb
    rw [h.entryAt_eq index (Nat.le_of_lt hindex)] at hlower
    rw [h.entryAt_eq (index + 1) hindex] at hupper
    rw [hfirstEntry] at hfirst
    rw [hlastEntry, h.count_eq] at hlast
    rw [h.count_eq] at hindex
    exact find?_of_upperBound h.isWordSize_right hright hfirst hlast hb hindex hlower hupper

/-- Records with the same indices have the same defects. -/
theorem issuesFrom_eq (h : t.Resembles u) {remaining index : Nat} (previous : Option Address)
    (hle : index + remaining ≤ t.count) :
    t.issuesFrom index previous ((List.range' index remaining).map t.recordAt) =
      u.issuesFrom index previous ((List.range' index remaining).map u.recordAt) := by
  induction remaining generalizing index previous with
  | zero => rfl
  | succ remaining ih =>
    have hentry : (t.recordAt index).entry = (u.recordAt index).entry :=
      h.entryAt_eq index (by omega)
    have hname : t.nameIssues index (t.recordAt index) =
        u.nameIssues index (u.recordAt index) := by
      rw [nameIssues, nameIssues, h.name_eq index (by omega)]
    rw [List.range'_succ, List.map_cons, List.map_cons, issuesFrom, issuesFrom,
      h.descriptorIssues_eq index (by omega), hname, hentry, ih _ (by omega)]

/-- Both audits read all records and find the same defects. -/
theorem audit_eq (h : t.Resembles u) :
    ∃ issues, t.audit = .ok { header := t.header, checked := t.count, issues } ∧
      u.audit = .ok { header := u.header, checked := t.count, issues } := by
  have hleft : t.allRecords = .ok ((List.range t.count).map t.recordAt) :=
    allRecords_eq_ok_iff.mpr ((records_eq_ok_iff h.isWordSize_left).mpr
      ⟨fun i hi ↦ h.hasRecord_left.of_le (Nat.le_of_lt hi), rfl⟩)
  have hright : u.allRecords = .ok ((List.range t.count).map u.recordAt) := by
    refine allRecords_eq_ok_iff.mpr ((records_eq_ok_iff h.isWordSize_right).mpr
      ⟨fun i hi ↦ ?_, by rw [h.count_eq]⟩)
    rw [← h.count_eq] at hi
    exact h.hasRecord_right.of_le (Nat.le_of_lt hi)
  have hlast : ((List.range t.count).map t.recordAt).getLast?.map Record.entry =
      ((List.range t.count).map u.recordAt).getLast?.map Record.entry := by
    rw [← List.getLast?_map, ← List.getLast?_map, List.map_map, List.map_map]
    congr 1
    apply List.map_congr_left
    intro i hi
    exact h.entryAt_eq i (Nat.le_of_lt (List.mem_range.mp hi))
  have hend : t.endOfText = u.endOfText := by
    rw [endOfText_of_hasRecord h.isWordSize_left h.hasRecord_left, endOfText, ← h.count_eq,
      record_of_hasRecord h.isWordSize_right h.hasRecord_right, h.entryAt_eq _ (Nat.le_refl _)]
    rfl
  have hissues : t.issuesFrom 0 none ((List.range t.count).map t.recordAt) =
      u.issuesFrom 0 none ((List.range t.count).map u.recordAt) := by
    rw [List.range_eq_range']
    exact h.issuesFrom_eq none (by omega)
  obtain ⟨ofRecords, hofRecords⟩ :=
    exists_issuesFrom_eq_ok t 0 none ((List.range t.count).map t.recordAt)
  obtain ⟨ofSentinel, hofSentinel⟩ := exists_sentinelIssues_eq_ok t
    (((List.range t.count).map t.recordAt).getLast?.map Record.entry)
  refine ⟨ofRecords ++ ofSentinel, ?_, ?_⟩
  · rw [audit, hleft, Outcome.ok_bind, hofRecords, Outcome.ok_bind, hofSentinel, Outcome.ok_bind,
      List.length_map, List.length_range]
    rfl
  · rw [hlast, sentinelIssues, hend, ← sentinelIssues] at hofSentinel
    rw [audit, hright, Outcome.ok_bind, ← hissues, hofRecords, Outcome.ok_bind, hofSentinel,
      Outcome.ok_bind, List.length_map, List.length_range]
    rfl

end Resembles

variable {t u : Image} {remaining index i : Nat} {symbols : List Symbol}
  {failure? : Option LayoutError}

/-- A listing is that of any image whose records have the same symbols. -/
theorem Listing.of_symbolAt_eq
    (hsymbol : ∀ i, index ≤ i → i < index + remaining → t.symbolAt i = u.symbolAt i)
    (h : t.Listing remaining index symbols failure?) :
    u.Listing remaining index symbols failure? := by
  induction h with
  | done => exact .done
  | failed hs =>
    rw [hsymbol _ (Nat.le_refl _) (by omega)] at hs
    exact .failed hs
  | symbol hs _ ih =>
    rw [hsymbol _ (Nat.le_refl _) (by omega)] at hs
    exact .symbol hs (ih fun i hle hlt ↦ hsymbol i (by omega) (by omega))

namespace Resembles

variable (h : t.Resembles u)

include h

private theorem symbol_recordAt_eq (hi : i < t.count) :
    t.symbol (t.recordAt i) = u.symbol (u.recordAt i) := by
  have hentry : (t.recordAt i).entry = (u.recordAt i).entry := h.entryAt_eq i (Nat.le_of_lt hi)
  rw [symbol, symbol, h.name_eq i hi, hentry]

private theorem symbolAt_eq (hi : i < t.count) : t.symbolAt i = u.symbolAt i := by
  rw [symbolAt, symbolAt,
    record_of_hasRecord h.isWordSize_left (h.hasRecord_left.of_le (Nat.le_of_lt hi)),
    record_of_hasRecord h.isWordSize_right (h.hasRecord_right.of_le (Nat.le_of_lt hi))]
  exact h.symbol_recordAt_eq hi

/-- Both images have the same listing. -/
theorem listing (hlist : t.Listing t.count 0 symbols failure?) :
    u.Listing u.count 0 symbols failure? := by
  rw [← h.count_eq]
  exact hlist.of_symbolAt_eq fun i _ hlt ↦ h.symbolAt_eq (by omega)

/-- An address lies in the same function of both images. -/
theorem functionAt_eq (pc : Address) : t.functionAt pc = u.functionAt pc := by
  rcases h.find?_eq pc with ⟨hleft, hright⟩ | ⟨index, hindex, hleft, hright⟩
  · rw [functionAt, functionAt, hleft, hright]
    rfl
  · have hrange : (t.slotAt index).range = (u.slotAt index).range := by
      rw [slotAt, slotAt, h.entryAt_eq index (Nat.le_of_lt hindex), h.entryAt_eq (index + 1) hindex]
    rw [functionAt, functionAt, hleft, hright, Outcome.ok_bind, Outcome.ok_bind]
    dsimp only
    rw [hrange]
    show (t.symbol (t.recordAt index) >>= _) = u.symbol (u.recordAt index) >>= _
    rw [h.symbol_recordAt_eq hindex]

end Resembles

end Image

namespace Region

variable {r s : Region} {t u : Image} (ht : Image.ofRegion r = .ok t)
  (hu : Image.ofRegion s = .ok u) (h : t.Resembles u)

include ht hu h

/-- A name is resolved alike in images that show the same functions. -/
theorem resolve_eq_of_resembles (name : String) : r.resolve name = s.resolve name := by
  obtain ⟨symbols, failure?, hlist⟩ := Image.exists_listing t t.count 0
  rw [resolve, resolve, ask_of_ok ht, ask_of_ok hu, Image.resolve_eq hlist,
    Image.resolve_eq (h.listing hlist)]

/-- Images that show the same functions list the same symbols. -/
theorem symbols_eq_of_resembles : r.symbols = s.symbols := by
  obtain ⟨symbols, failure?, hlist⟩ := Image.exists_listing t t.count 0
  rw [Region.symbols, Region.symbols, ask_of_ok ht, ask_of_ok hu, Image.symbols_eq hlist,
    Image.symbols_eq (h.listing hlist), h.count_eq]

/-- Images that show the same functions have the same index. -/
theorem index_eq_of_resembles : r.index = s.index := by
  obtain ⟨symbols, failure?, hlist⟩ := Image.exists_listing t t.count 0
  rw [Region.index, Region.index, ask_of_ok ht, ask_of_ok hu, Image.index_eq hlist,
    Image.index_eq (h.listing hlist), h.count_eq]

/-- An address is looked up alike in images that show the same functions. -/
theorem functionAt_eq_of_resembles (pc : Address) : r.functionAt pc = s.functionAt pc := by
  rw [functionAt, functionAt, ask_of_ok ht, ask_of_ok hu, h.functionAt_eq pc]

/-- Audits of images that show the same functions check as many records and find the same defects.
-/
theorem audit_of_resembles :
    ∃ a b, r.audit = .ok a ∧ s.audit = .ok b ∧ a.checked = b.checked ∧ a.issues = b.issues := by
  obtain ⟨issues, hr, hs⟩ := h.audit_eq
  rw [← audit_of_ofRegion ht] at hr
  rw [← audit_of_ofRegion hu] at hs
  exact ⟨_, _, hr, hs, rfl, rfl⟩

end Region

end FuncMeta
