import FuncMeta.Proofs.Image.Audit
import FuncMeta.Proofs.Image.Failure
import FuncMeta.Proofs.Symbol.Agreement

/-!
# Failures of lookups

A lookup fails as the decoding of the image does, or because no function has the name. So on every
region whatsoever the failures are the documented ones, and none of them is that of a raw read. Main
statement: `failures_documented`.
-/

namespace FuncMeta

/-- The error is not that of a read. -/
def SymbolError.IsDocumented (e : SymbolError) : Prop := ∀ failure, e ≠ .layout (.region failure)

private theorem LayoutError.IsDocumented.layout {e : LayoutError} (h : e.IsDocumented) :
    (SymbolError.layout e).IsDocumented := by
  rintro failure ⟨⟩
  exact h failure rfl

namespace Image

variable {t : Image} {remaining index : Nat} {symbols : List Symbol}

private theorem symbol_failsOnly (hstart : t.header.nameTableOffset.toNat ≤ t.region.size)
    (record : Record) : (t.symbol record).FailsOnly LayoutError.IsDocumented := by
  refine .bind (name_failsOnly hstart _) ?_
  intro name _
  exact .ok _

private theorem symbolAt_failsOnly (hw : IsWordSize t.header.pointerSize)
    (hstart : t.header.nameTableOffset.toNat ≤ t.region.size) (index : Nat) :
    (t.symbolAt index).FailsOnly LayoutError.IsDocumented := by
  refine .bind ((record_failsOnly hw _ _).mono ?_) ?_
  · rintro e rfl failure ⟨⟩
  · intro record _
    exact symbol_failsOnly hstart record

/-- The failure that ends a listing is documented. -/
theorem Listing.isDocumented {e : LayoutError} (h : t.Listing remaining index symbols (some e))
    (hw : IsWordSize t.header.pointerSize)
    (hstart : t.header.nameTableOffset.toNat ≤ t.region.size) : e.IsDocumented :=
  symbolAt_failsOnly hw hstart _ e h.symbolAt_length.2

/-- What is gathered from a listing fails only as the listing does. -/
theorem Listing.endedBy_failsOnly {α : Type} {failure? : Option LayoutError}
    (h : t.Listing remaining index symbols failure?) (hw : IsWordSize t.header.pointerSize)
    (hstart : t.header.nameTableOffset.toNat ≤ t.region.size) (a : α) :
    (endedBy failure? a).FailsOnly LayoutError.IsDocumented := by
  cases failure? with
  | some e => exact .error (h.isDocumented hw hstart)
  | none => exact .ok _

private theorem symbols_failsOnly (hw : IsWordSize t.header.pointerSize)
    (hstart : t.header.nameTableOffset.toNat ≤ t.region.size) :
    t.symbols.FailsOnly LayoutError.IsDocumented := by
  obtain ⟨symbols, failure?, hlist⟩ := exists_listing t t.count 0
  rw [symbols_eq hlist, Word.reserve]
  split
  · exact hlist.endedBy_failsOnly hw hstart _
  · exact .halt

private theorem index_failsOnly (hw : IsWordSize t.header.pointerSize)
    (hstart : t.header.nameTableOffset.toNat ≤ t.region.size) :
    t.index.FailsOnly LayoutError.IsDocumented := by
  obtain ⟨symbols, failure?, hlist⟩ := exists_listing t t.count 0
  rw [index_eq hlist, SymbolIndex.reserve]
  split
  · exact hlist.endedBy_failsOnly hw hstart _
  · exact .halt

/-- A name that is not resolved is not there, or a record in front of it cannot be decoded. -/
theorem resolve_failsOnly (hw : IsWordSize t.header.pointerSize)
    (hstart : t.header.nameTableOffset.toNat ≤ t.region.size) (name : String) :
    (t.resolve name).FailsOnly fun e ↦
      e = .notFound name ∨ ∃ failure, e = .layout failure ∧ failure.IsDocumented := by
  obtain ⟨symbols, failure?, hlist⟩ := exists_listing t t.count 0
  rw [resolve_eq hlist]
  unfold answer
  cases entryOf? symbols name with
  | some address => exact .ok _
  | none =>
    cases failure? with
    | some e => exact .error (.inr ⟨e, rfl, hlist.isDocumented hw hstart⟩)
    | none => exact .error (.inl rfl)

private theorem functionAt_failsOnly (hw : IsWordSize t.header.pointerSize)
    (hstart : t.header.nameTableOffset.toNat ≤ t.region.size) (pc : Address) :
    (t.functionAt pc).FailsOnly LayoutError.IsDocumented := by
  refine .bind ((find?_failsOnly hw pc).mono fun e he ↦ he.isDocumented) ?_
  intro found _
  cases found with
  | none => exact .ok _
  | some slot =>
    refine .bind (symbol_failsOnly hstart _) ?_
    intro symbol _
    exact .ok _

/-- An audit fails only where the function table ends too early: all other defects are issues. -/
theorem audit_failsOnly (hw : IsWordSize t.header.pointerSize) :
    t.audit.FailsOnly LayoutError.IsTruncatedTable := by
  refine .bind ?_ ?_
  · exact .bind (recordsFrom_failsOnly hw _ _) fun _ _ ↦ .ok _
  · intro records _
    obtain ⟨issues, hissues⟩ := exists_issuesFrom_eq_ok t 0 none records
    obtain ⟨ofSentinel, hsentinel⟩ :=
      exists_sentinelIssues_eq_ok t (records.getLast?.map Record.entry)
    rw [hissues, Outcome.ok_bind, hsentinel, Outcome.ok_bind]
    exact .ok _

end Image

namespace Region

/-- A question is answered by an image, or fails as its header does. -/
theorem ask_failsOnly {α : Type} {r : Region} {query : Image → Outcome SymbolError α}
    {isKind : SymbolError → Prop}
    (hheader : ∀ e : LayoutError, e.IsDocumented → isKind (.layout e))
    (h : ∀ t, Image.ofRegion r = .ok t → (query t).FailsOnly isKind) :
    (r.ask query).FailsOnly isKind := by
  rw [ask]
  cases ht : Image.ofRegion r with
  | ok t => exact h t ht
  | error e =>
    have hdecode := Image.ofRegion_eq_error_iff.mp ht
    exact .error (hheader e (Header.decode_failsOnly hdecode))

/-- On no region does a lookup fail with the failure of a read, whether its header is accepted or
not. Under an accepted header a record, the end of the last function and a search by address fail
only because the table is truncated, a descriptor only because it leaves the region, and a name for
one of its own three defects. A name that is not resolved is not there, or the bytes are at
fault. -/
theorem failures_documented (r : Region) :
    (∀ e, Header.decode r = .error e → e.IsDocumented) ∧
      (∀ t, Image.ofRegion r = .ok t →
        (∀ index, (t.get? index).FailsOnly (· = .truncatedTable index t.count)) ∧
        (∀ c : Cursor, c.image = t → c.next.1.FailsOnly (· = .truncatedTable c.index t.count)) ∧
        t.endOfText.FailsOnly (· = .truncatedTable t.count (Word.saturate (t.count + 1))) ∧
        (∀ pc, (t.find? pc).FailsOnly LayoutError.IsTruncatedTable) ∧
        (∀ m, (t.nameOffset m).FailsOnly (LayoutError.IsDescriptorOutside m.toNat r.size)) ∧
        (∀ m, (t.descriptor m).FailsOnly (LayoutError.IsDescriptorOutside m.toNat r.size)) ∧
        (∀ offset, (t.nameAt offset).FailsOnly (LayoutError.IsBadName t offset)) ∧
        ∀ m, (t.name m).FailsOnly LayoutError.IsDocumented) ∧
      (∀ name, (r.resolve name).FailsOnly fun e ↦
        e = .notFound name ∨
          ∃ failure, e = .layout failure ∧ failure.IsDocumented ∧ failure.isIncompatible = true) ∧
      r.symbols.FailsOnly SymbolError.IsDocumented ∧
      r.index.FailsOnly SymbolError.IsDocumented ∧
      (∀ pc, (r.functionAt pc).FailsOnly SymbolError.IsDocumented) ∧
      r.audit.FailsOnly LayoutError.IsDocumented := by
  have hword {t : Image} (ht : Image.ofRegion r = .ok t) := Image.isWordSize_of_ofRegion ht
  have hstart {t : Image} (ht : Image.ofRegion r = .ok t) :=
    Nat.le_of_lt (Image.nameTableOffset_lt_of_ofRegion ht)
  refine ⟨fun e ↦ Header.decode_failsOnly, ?_, ?_, ?_, ?_, ?_, ?_⟩
  · intro t ht
    have hw := hword ht
    obtain ⟨rfl, -⟩ := Image.ofRegion_eq_ok_iff.mp ht
    refine ⟨Image.get?_failsOnly hw, ?_, Image.endOfText_failsOnly hw, Image.find?_failsOnly hw,
      Image.nameOffset_failsOnly t, Image.descriptor_failsOnly hw,
      Image.nameAt_failsOnly (hstart ht), Image.name_failsOnly (hstart ht)⟩
    rintro c rfl
    exact Cursor.next_failsOnly hw
  · intro name
    have hresolve : (r.resolve name).FailsOnly fun e ↦
        e = .notFound name ∨ ∃ failure, e = .layout failure ∧ failure.IsDocumented :=
      ask_failsOnly (fun e he ↦ .inr ⟨e, rfl, he⟩) fun t ht ↦
        Image.resolve_failsOnly (hword ht) (hstart ht) name
    refine hresolve.mono fun e he ↦ he.imp_right ?_
    rintro ⟨failure, hfailure, hdocumented⟩
    exact ⟨failure, hfailure, hdocumented, hdocumented.isIncompatible⟩
  · exact ask_failsOnly (fun e he ↦ he.layout) fun t ht ↦
      (Image.symbols_failsOnly (hword ht) (hstart ht)).mapError fun e he ↦ he.layout
  · exact ask_failsOnly (fun e he ↦ he.layout) fun t ht ↦
      (Image.index_failsOnly (hword ht) (hstart ht)).mapError fun e he ↦ he.layout
  · intro pc
    exact ask_failsOnly (fun e he ↦ he.layout) fun t ht ↦
      (Image.functionAt_failsOnly (hword ht) (hstart ht) pc).mapError fun e he ↦ he.layout
  · rw [audit]
    cases ht : Image.ofRegion r with
    | ok t => exact (Image.audit_failsOnly (hword ht)).mono fun e he ↦ he.isDocumented
    | error e => exact .error (Header.decode_failsOnly (Image.ofRegion_eq_error_iff.mp ht))

/-- The sample image has an accepted header. Its descriptors fail only by leaving the region, as the
one at offset 65 does. -/
theorem failures_documented_sample :
    ∃ t, Image.ofRegion sample = .ok t ∧
      (∀ m, (t.descriptor m).FailsOnly (LayoutError.IsDescriptorOutside m.toNat sample.size)) ∧
      t.descriptor 65 = .error (.offsetOutOfBounds .descriptor 65 144) := by
  obtain ⟨-, hparts, -⟩ := failures_documented sample
  obtain ⟨-, -, -, -, -, hdescriptor, -⟩ := hparts _ Image.ofRegion_sample
  exact ⟨_, Image.ofRegion_sample, hdescriptor, by decide +kernel⟩

end Region

end FuncMeta
