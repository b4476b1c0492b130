import FuncMeta.Proofs.Manifest.BuiltImage
import FuncMeta.Proofs.Symbol.Agreement

/-!
# Round trip of a manifest

What is built is decoded as the manifest says: its functions in their order, each with its entry and
its name, and for every name the entry of the first function that carries it. Main statement:
`lookups_of_encode`.
-/

namespace FuncMeta.Manifest

variable {m : Manifest} {stop i : Nat} {r : Region}

/-- The symbol of a function. -/
def symbolOf (f : String × UInt64) : Symbol where
  name := f.1
  address := ⟨f.2⟩

private theorem entryOf?_map_symbolOf (functions : List (String × UInt64)) (name : String) :
    entryOf? (functions.map symbolOf) name =
      (functions.find? (·.1 = name)).map fun f ↦ ⟨f.2⟩ := by
  rw [entryOf?, List.find?_map, Option.map_map]
  rfl

namespace IsHeldBy

variable (h : m.IsHeldBy stop r) (hnames : m.nameBytes.length < 0x80000000)
  (hzero : ∀ f ∈ m.functions, 0 ∉ f.1.toByteArray.data.toList)

include h

private theorem record_eq (hi : i < m.functions.length) (count : Nat) :
    (m.imageOn r).record i count =
      .ok { entry := ⟨m.functions[i].2⟩, metadataOffset := .ofNat (m.metadataOffset i) } := by
  rw [Image.record_of_hasRecord h.isWordSize (h.hasRecord (Nat.le_of_lt hi)), h.recordAt_eq hi]

include hnames hzero

private theorem symbolAt_eq (hi : i < m.functions.length) :
    (m.imageOn r).symbolAt i = .ok (symbolOf m.functions[i]) := by
  rw [Image.symbolAt, h.record_eq hi, Outcome.ok_bind]
  exact Image.symbol_eq_ok_iff.mpr
    ⟨h.name_eq hi hnames (hzero _ (List.getElem_mem hi)), rfl⟩

/-- The listing of the image is that of the manifest. -/
theorem listing :
    (m.imageOn r).Listing (m.imageOn r).count 0 (m.functions.map symbolOf) none := by
  have hlength : m.functions.length = (m.functions.map symbolOf).length := (List.length_map _).symm
  rw [h.count_eq, hlength]
  apply Image.Listing.of_symbolAt
  intro i hi
  rw [List.length_map] at hi
  rw [Nat.zero_add, h.symbolAt_eq hnames hzero hi, List.getElem_map]

end IsHeldBy

/-- A region that holds what a manifest is built to is an image with the manifest's size of
pointers, number of functions and number of files. A walk yields the entries in the order of the
functions, and each record leads to the name of its function. A name resolves to the entry of the
first function that carries it, and to nothing if there is none. -/
theorem lookups_of_encode {bytes : List UInt8} (h : m.encode = .ok bytes) (hr : r.toList = bytes)
    (hnames : m.nameBytes.length < 0x80000000)
    (hzero : ∀ f ∈ m.functions, 0 ∉ f.1.toByteArray.data.toList) :
    ∃ t, Image.ofRegion r = .ok t ∧
      t.header.pointerSize = m.pointerSize ∧
      t.header.functionCount.toNat = m.functions.length ∧
      t.header.fileCount.toNat = m.files.length ∧
      (∀ i, (hi : i < m.functions.length) → ∃ record,
        ((Cursor.start t).advance i).next.1 = .ok (some record) ∧
          record.entry = ⟨m.functions[i].2⟩ ∧
          t.name record.metadataOffset = .ok m.functions[i].1) ∧
      ((Cursor.start t).advance m.functions.length).next.1 = .ok none ∧
      ∀ name, r.resolve name =
        match m.functions.find? (·.1 = name) with
        | some f => .ok ⟨f.2⟩
        | none => .error (.notFound name) := by
  obtain ⟨stop, -, hheld⟩ := exists_isHeldBy h hr
  have hread (i : Nat) (hi : i < m.functions.length) : (m.imageOn r).HasRecord i :=
    hheld.hasRecord (Nat.le_of_lt hi)
  refine ⟨m.imageOn r, hheld.ofRegion_eq, rfl, hheld.count_eq,
    hheld.toNat_ofNat (by simp [headerWords]), ?_, ?_, ?_⟩
  · intro i hi
    refine ⟨(m.imageOn r).recordAt i, ?_, ?_, ?_⟩
    · exact Cursor.next_advance_start hheld.isWordSize (by rwa [hheld.count_eq])
        fun j hj ↦ hread j (Nat.lt_of_le_of_lt hj hi)
    · rw [hheld.recordAt_eq hi]
    · rw [hheld.recordAt_eq hi]
      exact hheld.name_eq hi hnames (hzero _ (List.getElem_mem hi))
  · rw [← hheld.count_eq, Cursor.next_advance_count hheld.isWordSize]
    intro i hi
    exact hread i (by rwa [← hheld.count_eq])
  · intro name
    rw [Region.resolve, Region.ask_of_ok hheld.ofRegion_eq,
      Image.resolve_eq (hheld.listing hnames hzero)]
    unfold answer
    rw [entryOf?_map_symbolOf]
    cases m.functions.find? (·.1 = name) with
    | some f => rfl
    | none => rfl

/-- The manifest of the sample image. -/
def sampleManifest : Manifest where
  pointerSize := 4
  functions := [("f", 0x1000), ("f", 0x2000)]

set_option maxRecDepth 20000 in
/-- The sample image is built from its manifest and answers as it says. -/
theorem lookups_of_encode_sample :
    sampleManifest.encode = .ok sampleBytes ∧
      ∀ name, sample.resolve name =
        match sampleManifest.functions.find? (·.1 = name) with
        | some f => .ok ⟨f.2⟩
        | none => .error (.notFound name) := by
  have hencode : sampleManifest.encode = .ok sampleBytes := by rfl
  obtain ⟨_, -, -, -, -, -, -, hresolve⟩ :=
    lookups_of_encode (r := sample) hencode rfl (by decide) (by decide)
  exact ⟨hencode, hresolve⟩

end FuncMeta.Manifest
