import FuncMeta.Blob
import FuncMeta.Proofs.Image.Audit
import FuncMeta.Proofs.Symbol.Agreement
import FuncMeta.Proofs.Truncation.Decoding

/-!
# Answers from a truncated image

Every question asked of an image that was cut short, read under the same header, is answered as on
the whole image or with an error of decoding. The end of the name table moves with the end of the
region when no table follows the names, but a name that ends inside the shorter table ends at the
same zero in the longer one. Main statement: `answers_take`.
-/

namespace FuncMeta

open Outcome (EqUnless EqUnlessError)

/-- A failure to decode the image, in contrast to a name that no function carries. -/
def SymbolError.IsLayout (e : SymbolError) : Prop := ∃ failure, e = .layout failure

namespace Image

variable {t : Image} {n : Nat}

/-- An image cut to its first `n` bytes and read under the same header. -/
def take (t : Image) (n : Nat) : Image := { t with region := t.region.take n }

private theorem size_take_le (t : Image) (n : Nat) : (t.take n).region.size ≤ t.region.size := by
  rw [take, Region.size_take]
  exact Nat.min_le_right ..

/-- What lies in the shorter region lies in the longer one. -/
theorem HasRecord.of_take {index : Nat} (h : (t.take n).HasRecord index) : t.HasRecord index :=
  Nat.le_trans h (size_take_le t n)

private theorem word_take (t : Image) (n offset : Nat) :
    EqUnlessError ((t.take n).word offset) (t.word offset) :=
  .ofRead Region.readWord_take

private theorem record_take (t : Image) (n index count : Nat) :
    EqUnlessError ((t.take n).record index count) (t.record index count) := by
  by_cases h : (t.take n).HasRecord index
  · rw [record, record, recordOffset?_of_hasRecord h, recordOffset?_of_hasRecord h.of_take]
    apply EqUnless.bind (word_take t n _)
    intro entry
    apply EqUnless.bind (.refl _)
    intro second
    apply EqUnless.bind (word_take t n _)
    intro metadataOffset
    exact .refl _
  · rw [record_of_not_hasRecord h]
    exact .error trivial

private theorem wordAt_take {offset : Nat} (h : offset + t.header.pointerSize.toNat ≤ n) :
    (t.take n).wordAt offset = t.wordAt offset :=
  Region.wordAt_take h

private theorem recordAt_take {index : Nat} (h : (t.take n).HasRecord index) :
    (t.take n).recordAt index = t.recordAt index := by
  have hle : t.recordStart index + 2 * t.header.pointerSize.toNat ≤ n :=
    Nat.le_trans h (by rw [take, Region.size_take]; exact Nat.min_le_left ..)
  have hentry : (t.take n).wordAt (t.recordStart index) = _ := wordAt_take (by omega)
  have hmetadata : (t.take n).wordAt (t.recordStart index + t.header.pointerSize.toNat) = _ :=
    wordAt_take (by omega)
  rw [recordAt, recordAt, ← hentry, ← hmetadata]
  rfl

private theorem get?_take (t : Image) (n index : Nat) :
    EqUnlessError ((t.take n).get? index) (t.get? index) := by
  unfold get?
  show EqUnlessError (if index < t.count then _ else _) _
  split
  · exact .map (record_take t n index _)
  · exact .refl _

private theorem endOfText_take (t : Image) (n : Nat) :
    EqUnlessError (t.take n).endOfText t.endOfText :=
  .map (record_take t n _ _)

/-- Both searches meet the same entries, until the shorter table ends. -/
theorem upperBound_take (t : Image) (n : Nat) (pc : Address) (lo hi : Nat) :
    EqUnlessError ((t.take n).upperBound pc lo hi) (t.upperBound pc lo hi) := by
  induction hspan : hi - lo using Nat.strongRecOn generalizing lo hi with
  | ind span ih =>
    rw [upperBound, upperBound.eq_1 t]
    by_cases hlt : lo < hi
    · rw [if_pos hlt, if_pos hlt]
      apply EqUnless.bind (.refl _)
      intro probe
      apply EqUnless.bind (record_take t n _ _)
      intro record
      by_cases hle : record.entry ≤ pc
      · rw [if_pos hle, if_pos hle]
        apply EqUnless.bind (.refl _)
        intro _
        exact ih _ (by omega) _ _ rfl
      · rw [if_neg hle, if_neg hle]
        exact ih _ (by omega) _ _ rfl
    · rw [if_neg hlt, if_neg hlt]
      exact .refl _

private theorem find?_take (t : Image) (n : Nat) (pc : Address) :
    EqUnlessError ((t.take n).find? pc) (t.find? pc) := by
  unfold find?
  show EqUnlessError (if t.count = 0 then _ else _) _
  split
  · exact .refl _
  · apply EqUnless.bind (record_take t n _ _)
    intro first
    apply EqUnless.bind (endOfText_take t n)
    intro endOfText
    split
    · exact .refl _
    · apply EqUnless.bind (upperBound_take t n pc _ _)
      intro bound
      apply EqUnless.bind (record_take t n _ _)
      intro record
      apply EqUnless.bind (.refl _)
      intro next
      show EqUnlessError (if next = t.count then _ else _) _
      split
      · exact .refl _
      · apply EqUnless.bind (.map (record_take t n _ _))
        intro stop
        exact .refl _

private theorem descriptorStart_take (t : Image) (n metadataOffset needed : Nat) :
    EqUnlessError ((t.take n).descriptorStart metadataOffset needed)
      (t.descriptorStart metadataOffset needed) := by
  cases h : (t.take n).descriptorStart metadataOffset needed with
  | ok start =>
    obtain ⟨hstart, hle⟩ := descriptorStart_eq_ok_iff.mp h
    have hwhole : t.descriptorStart metadataOffset needed = .ok start :=
      descriptorStart_eq_ok_iff.mpr ⟨hstart, Nat.le_trans hle (size_take_le t n)⟩
    rw [hwhole]
    exact .refl _
  | error e => exact .error trivial
  | halt => exact absurd h (descriptorStart_ne_halt _ _ _)

private theorem descriptor_take (t : Image) (n : Nat) (metadataOffset : UInt64) :
    EqUnlessError ((t.take n).descriptor metadataOffset) (t.descriptor metadataOffset) := by
  apply EqUnless.bind (descriptorStart_take t n _ _)
  intro base
  apply EqUnless.bind (word_take t n _)
  intro entry
  have int32 (field : Outcome LayoutError Nat) :
      EqUnlessError (do LayoutError.ofRead ((t.take n).region.readInt32 (← field)))
        (do LayoutError.ofRead (t.region.readInt32 (← field))) :=
    .bind (.refl _) fun _ ↦ .ofRead Region.readInt32_take
  have uint32 (field : Outcome LayoutError Nat) :
      EqUnlessError (do LayoutError.ofRead ((t.take n).region.readUInt32 (← field)))
        (do LayoutError.ofRead (t.region.readUInt32 (← field))) :=
    .bind (.refl _) fun _ ↦ .ofRead Region.readUInt32_take
  have uint8 (field : Outcome LayoutError Nat) :
      EqUnlessError (do LayoutError.ofRead ((t.take n).region.readUInt8 (← field)))
        (do LayoutError.ofRead (t.region.readUInt8 (← field))) :=
    .bind (.refl _) fun _ ↦ .ofRead Region.readUInt8_take
  exact .bind (int32 _) fun _ ↦ .bind (int32 _) fun _ ↦ .bind (uint32 _) fun _ ↦
    .bind (uint32 _) fun _ ↦ .bind (uint32 _) fun _ ↦ .bind (uint32 _) fun _ ↦
    .bind (uint32 _) fun _ ↦ .bind (uint32 _) fun _ ↦ .bind (uint8 _) fun _ ↦
    .bind (uint8 _) fun _ ↦ .refl _

private theorem nameOffset_take (t : Image) (n : Nat) (metadataOffset : UInt64) :
    EqUnlessError ((t.take n).nameOffset metadataOffset) (t.nameOffset metadataOffset) := by
  apply EqUnless.bind (descriptorStart_take t n _ _)
  intro base
  apply EqUnless.bind (.refl _)
  intro place
  exact .ofRead Region.readInt32_take

private theorem nameTableEnd_take_le (t : Image) (n : Nat) :
    (t.take n).nameTableEnd ≤ t.nameTableEnd :=
  t.header.tableEnd_mono .functionName (size_take_le t n)

/-- A name that ends inside the shorter name table is the same in the longer one. -/
theorem nameFrom_take {place : Nat} {name : String} (h : (t.take n).nameFrom place = .ok name) :
    t.nameFrom place = .ok name := by
  obtain ⟨found, hread, htext⟩ := nameFrom_eq_ok_iff.mp h
  exact nameFrom_eq_ok_iff.mpr ⟨found, Region.readCString_take hread (nameTableEnd_take_le t n)
    (t.header.tableEnd_le .functionName t.region.size), htext⟩

private theorem nameAt_take (t : Image) (n : Nat) (offset : Int32) :
    EqUnlessError ((t.take n).nameAt offset) (t.nameAt offset) := by
  rw [nameAt, nameAt]
  split
  · next h =>
    have hsize : (t.take n).nameTableSize ≤ t.nameTableSize :=
      Nat.sub_le_sub_right (nameTableEnd_take_le t n) _
    rw [if_pos ⟨h.1, by omega⟩]
    apply EqUnless.bind (.refl _)
    intro place
    exact .ofExcept (fun _ ↦ trivial) fun _ ↦ nameFrom_take
  · exact .error trivial

private theorem name_take (t : Image) (n : Nat) (metadataOffset : UInt64) :
    EqUnlessError ((t.take n).name metadataOffset) (t.name metadataOffset) :=
  .bind (nameOffset_take t n _) fun _ ↦ nameAt_take t n _

private theorem symbol_take (t : Image) (n : Nat) (record : Record) :
    EqUnlessError ((t.take n).symbol record) (t.symbol record) :=
  .bind (name_take t n _) fun _ ↦ .refl _

private theorem symbolAt_take (t : Image) (n index : Nat) :
    EqUnlessError ((t.take n).symbolAt index) (t.symbolAt index) :=
  .bind (record_take t n _ _) fun _ ↦ symbol_take t n _

private theorem functionAt_take (t : Image) (n : Nat) (pc : Address) :
    EqUnlessError ((t.take n).functionAt pc) (t.functionAt pc) := by
  apply EqUnless.bind (find?_take t n pc)
  intro found
  cases found with
  | none => exact .refl _
  | some slot => exact .bind (symbol_take t n _) fun _ ↦ .refl _

/-- The listing of the shorter image is that of the longer one, or a failure ends it and the longer
one goes on from there. -/
theorem Listing.of_take {remaining index : Nat} {symbols : List Symbol}
    {failure? : Option LayoutError} (h : (t.take n).Listing remaining index symbols failure?) :
    t.Listing remaining index symbols failure? ∨
      ∃ e more failure'?, failure? = some e ∧
        t.Listing remaining index (symbols ++ more) failure'? := by
  induction h with
  | done => exact .inl .done
  -- The record that fails in the shorter image may be decoded in the longer one.
  | @failed remaining index e _ =>
    obtain ⟨more, failure'?, hlist⟩ := exists_listing t (remaining + 1) index
    exact .inr ⟨e, more, failure'?, rfl, hlist⟩
  | symbol hs _ ih =>
    have hwhole := (symbolAt_take t n _).eq_of_ok hs
    rcases ih with hlist | ⟨e, more, failure'?, rfl, hlist⟩
    · exact .inl (.symbol hwhole hlist)
    · exact .inr ⟨e, more, failure'?, rfl, .symbol hwhole hlist⟩

private theorem resolve_take (t : Image) (n : Nat) (name : String) :
    EqUnless SymbolError.IsLayout ((t.take n).resolve name) (t.resolve name) := by
  obtain ⟨symbols, failure?, hlist⟩ := exists_listing (t.take n) t.count 0
  rw [resolve_eq hlist]
  rcases hlist.of_take with hwhole | ⟨e, more, failure'?, rfl, hwhole⟩
  · rw [resolve_eq hwhole]
    exact .refl _
  · rw [resolve_eq hwhole]
    unfold answer
    rw [entryOf?_append]
    cases entryOf? symbols name with
    | some address => exact .refl _
    | none => exact .error ⟨e, rfl⟩

private theorem symbols_take (t : Image) (n : Nat) :
    EqUnlessError (t.take n).symbols t.symbols := by
  obtain ⟨symbols, failure?, hlist⟩ := exists_listing (t.take n) t.count 0
  rw [symbols_eq hlist]
  rcases hlist.of_take with hwhole | ⟨e, more, failure'?, rfl, hwhole⟩
  · rw [symbols_eq hwhole]
    exact .refl _
  · rw [symbols_eq hwhole]
    exact .bind (.refl _) fun _ ↦ .error trivial

/-- An image whose first part is clean is clean: nothing that the audit reads lies behind it. -/
theorem audit_take {a : Audit} (hw : IsWordSize t.header.pointerSize)
    (h : (t.take n).audit = .ok a) (hclean : a.isClean = true) : t.audit = .ok a := by
  obtain ⟨records, hrecords, hissues, hsentinel, rfl⟩ :=
    audit_eq_ok_and_isClean_iff.mp ⟨h, hclean⟩
  obtain ⟨hread, hshown⟩ := (records_eq_ok_iff (t := t.take n) hw).mp hrecords
  obtain ⟨hsorted, hparts⟩ := issuesFrom_eq_nil_iff.mp hissues
  obtain ⟨sentinel, hend, hlast⟩ := sentinelIssues_eq_nil_iff.mp hsentinel
  refine (audit_eq_ok_and_isClean_iff.mpr ⟨records, ?_, ?_, ?_, rfl⟩).1
  · refine (records_eq_ok_iff hw).mpr ⟨fun i hi ↦ (hread i hi).of_take, ?_⟩
    rw [← hshown]
    exact List.map_congr_left fun i hi ↦ (recordAt_take (hread i (List.mem_range.mp hi))).symm
  · refine issuesFrom_eq_nil_iff.mpr ⟨hsorted, fun record hrecord ↦ ?_⟩
    obtain ⟨⟨d, hd, hentry⟩, name, hname⟩ := hparts record hrecord
    exact ⟨⟨d, (descriptor_take t n _).eq_of_ok hd, hentry⟩, name, (name_take t n _).eq_of_ok hname⟩
  · exact sentinelIssues_eq_nil_iff.mpr ⟨sentinel, (endOfText_take t n).eq_of_ok hend, hlast⟩

end Image

/-- Cutting a blob turns answers into layout errors at worst, never into other answers. If the
shorter blob has a header, the longer one has the same; under it every record, the end of the last
function, every search by address, every descriptor, every name by a record's or its own offset,
every function at an address, every name that is resolved and the list of all symbols is the same,
unless the shorter blob gives a layout error. If the shorter blob is found clean, so is the longer
one, with as many records checked. -/
theorem Blob.answers_take {b : Blob} {n : Nat} {header : Header}
    (h : Header.decode (b.take n).region = .ok header) :
    Header.decode b.region = .ok header ∧
      ∃ short long : Image,
        Image.ofRegion (b.take n).region = .ok short ∧ Image.ofRegion b.region = .ok long ∧
        short.header = header ∧ long.header = header ∧
        (∀ index, EqUnlessError (short.get? index) (long.get? index)) ∧
        EqUnlessError short.endOfText long.endOfText ∧
        (∀ pc, EqUnlessError (short.find? pc) (long.find? pc)) ∧
        (∀ metadataOffset,
          EqUnlessError (short.descriptor metadataOffset) (long.descriptor metadataOffset)) ∧
        (∀ metadataOffset, EqUnlessError (short.name metadataOffset) (long.name metadataOffset)) ∧
        (∀ offset, EqUnlessError (short.nameAt offset) (long.nameAt offset)) ∧
        (∀ pc, EqUnless SymbolError.IsLayout ((b.take n).region.functionAt pc)
          (b.region.functionAt pc)) ∧
        (∀ name, EqUnless SymbolError.IsLayout ((b.take n).region.resolve name)
          (b.region.resolve name)) ∧
        EqUnless SymbolError.IsLayout (b.take n).region.symbols b.region.symbols ∧
        ∀ a, (b.take n).region.audit = .ok a → a.isClean = true → b.region.audit = .ok a := by
  have hwhole := Header.decode_take h
  let long : Image := { region := b.region, header := header }
  have hshort : Image.ofRegion (b.take n).region = .ok (long.take n) :=
    Image.ofRegion_eq_ok_iff.mpr ⟨rfl, h⟩
  have hlong : Image.ofRegion b.region = .ok long := Image.ofRegion_eq_ok_iff.mpr ⟨rfl, hwhole⟩
  refine ⟨hwhole, long.take n, long, hshort, hlong, rfl, rfl, Image.get?_take long n,
    Image.endOfText_take long n, Image.find?_take long n, Image.descriptor_take long n,
    Image.name_take long n, Image.nameAt_take long n, ?_, ?_, ?_, ?_⟩
  · intro pc
    rw [Region.functionAt, Region.functionAt, Region.ask_of_ok hshort, Region.ask_of_ok hlong]
    exact .mapError (Image.functionAt_take long n pc) fun e _ ↦ ⟨e, rfl⟩
  · intro name
    rw [Region.resolve, Region.resolve, Region.ask_of_ok hshort, Region.ask_of_ok hlong]
    exact Image.resolve_take long n name
  · rw [Region.symbols, Region.symbols, Region.ask_of_ok hshort, Region.ask_of_ok hlong]
    exact .mapError (Image.symbols_take long n) fun e _ ↦ ⟨e, rfl⟩
  · intro a haudit hclean
    rw [Region.audit_of_ofRegion hshort] at haudit
    rw [Region.audit_of_ofRegion hlong]
    exact Image.audit_take (Image.isWordSize_of_ofRegion hlong) haudit hclean

/-- The sample image with an address. -/
def sampleBlob : Blob where
  region := sample
  base := ⟨0x400000⟩

set_option maxRecDepth 20000 in
/-- The bytes of the sample image up to a place inside its last descriptor. -/
def cutSample : Region where
  bytes := ⟨(sampleBytes.take 108).toArray⟩
  size_lt := by decide

set_option maxRecDepth 20000 in
/-- The sample image cut inside its last descriptor keeps its header and what it says about the
first function. About the second one it gives a layout error, and so for a name that is missing. -/
theorem Blob.answers_take_sample :
    (sampleBlob.take 108).region = cutSample ∧ Header.decode cutSample = .ok sampleHeader ∧
      cutSample.resolve "f" = .ok ⟨0x1000⟩ ∧ sample.resolve "f" = .ok ⟨0x1000⟩ ∧
      cutSample.resolve "g" = .error (.layout (.offsetOutOfBounds .descriptor 64 108)) ∧
      sample.resolve "g" = .error (.notFound "g") ∧
      cutSample.functionAt ⟨0x1fff⟩ = .ok (some
        { symbol := { name := "f", address := ⟨0x1000⟩ },
          range := { start := ⟨0x1000⟩, stop := ⟨0x2000⟩ } }) ∧
      sample.functionAt ⟨0x1fff⟩ = .ok (some
        { symbol := { name := "f", address := ⟨0x1000⟩ },
          range := { start := ⟨0x1000⟩, stop := ⟨0x2000⟩ } }) ∧
      cutSample.functionAt ⟨0x2000⟩ = .error (.layout (.offsetOutOfBounds .descriptor 64 108)) ∧
      cutSample.symbols = .error (.layout (.offsetOutOfBounds .descriptor 64 108)) ∧
      sample.symbols = .ok sampleSymbols := by
  have hcut : (sampleBlob.take 108).region = cutSample := Region.ext (Region.toList_take sample 108)
  have hheader : Header.decode cutSample = .ok sampleHeader := by rfl
  have hf : cutSample.resolve "f" = .ok ⟨0x1000⟩ := by decide +kernel
  have hspan : cutSample.functionAt ⟨0x1fff⟩ = .ok (some
      { symbol := { name := "f", address := ⟨0x1000⟩ },
        range := { start := ⟨0x1000⟩, stop := ⟨0x2000⟩ } }) := by
    decide +kernel
  obtain ⟨-, _, _, -, -, -, -, -, -, -, -, -, -, hfunctionAt, hresolve, -⟩ :=
    Blob.answers_take (b := sampleBlob) (n := 108) (by rw [hcut]; exact hheader)
  rw [hcut] at hfunctionAt hresolve
  exact ⟨hcut, hheader, hf, (hresolve "f").eq_of_ok hf, by decide +kernel, by decide +kernel, hspan,
    (hfunctionAt _).eq_of_ok hspan, by decide +kernel, by decide +kernel, by decide +kernel⟩

end FuncMeta
