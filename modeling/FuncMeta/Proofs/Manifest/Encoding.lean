import FuncMeta.Image.Manifest
import FuncMeta.Proofs.Region.Field

/-!
# When an image is built

Building writes words one after another and is refused at the first one that has no room in four
bytes; it halts only where the end of the last function leaves the address space. Otherwise it gives
`Manifest.image`, whose parts stand one after another. `written` says so of each part, and is
carried through sequencing. Main statements: `encode_eq` and `encode_eq_ok_iff`.
-/

namespace FuncMeta.Manifest

variable {m : Manifest} {width : UInt8} {value stop : Nat} {values : List Nat} {bytes : List UInt8}

/-- A number has room in a word. Of a word of eight bytes this is not asked. -/
def HasRoom (width : UInt8) (value : Nat) : Prop := width = 4 → value < 0x100000000

instance (width : UInt8) (value : Nat) : Decidable (HasRoom width value) :=
  inferInstanceAs (Decidable (_ → _))

/-- A value that has room is smaller than the number of contents that a word has. -/
theorem HasRoom.lt_limit (hw : IsWordSize width) (h : HasRoom width value)
    (hlt : value < Word.limit) : value < LittleEndian.limit width.toNat := by
  rcases hw with rfl | rfl
  · exact h rfl
  · exact hlt

/-- The refusal of a number that has no room in a word of four bytes. -/
def noRoom (value : Nat) : LayoutError :=
  .region (.notSupported s!"value 0x{Numeral.hex 1 value} does not fit a 4-byte word")

/-- What comes of writing some words in their order: the refusal of the first one without room, or
else the given result. -/
def written {α : Type} (width : UInt8) (values : List Nat) (result : α) : Except LayoutError α :=
  match values.find? fun value ↦ ¬ HasRoom width value with
  | some value => .error (noRoom value)
  | none => .ok result

section

variable {α β : Type} {more : List Nat} {a : α} {b : β}

/-- Writing words succeeds exactly if all of them have room. -/
theorem written_eq_ok_iff {a' : α} :
    written width values a = .ok a' ↔ (∀ value ∈ values, HasRoom width value) ∧ a = a' := by
  have hnone : (values.find? fun value ↦ ¬ HasRoom width value) = none ↔
      ∀ value ∈ values, HasRoom width value := by
    simp
  rw [← hnone, written]
  cases values.find? fun value ↦ ¬ HasRoom width value with
  | some value => simp
  | none => simp

/-- Words are written behind others. -/
theorem written_bind {f : α → Except LayoutError β} (h : f a = written width more b) :
    written width values a >>= f = written width (values ++ more) b := by
  rw [written, written, List.find?_append]
  cases values.find? fun value ↦ ¬ HasRoom width value with
  | some value => rfl
  | none => exact h

private theorem written_map {f : α → β} :
    (do return f (← written width values a)) = written width values (f a) := by
  rw [written, written]
  cases values.find? fun value ↦ ¬ HasRoom width value with
  | some value => rfl
  | none => rfl

/-- Words are written element by element. -/
theorem mapM_eq_written {f : α → Except LayoutError β} {words : α → List Nat} {g : α → β}
    (h : ∀ a, f a = written width (words a) (g a)) (as : List α) :
    as.mapM f = written width (as.flatMap words) (as.map g) := by
  induction as with
  | nil => rfl
  | cons a as ih =>
    rw [List.mapM_cons, h, List.flatMap_cons, List.map_cons]
    apply written_bind
    rw [ih, written_map]

/-- Words are written one after another: those at the end only if those in front have room. -/
theorem ofExcept_written_append :
    Outcome.ofExcept (written width (values ++ more) a) =
      (Outcome.ofExcept (written width values ()) >>= fun _ ↦
        Outcome.ofExcept (written width more a)) := by
  rw [written, written, written, List.find?_append]
  cases values.find? fun value ↦ ¬ HasRoom width value with
  | some value => rfl
  | none => rfl

/-- What is written is known before it is. -/
theorem ofExcept_written_bind {f : α → Outcome LayoutError β} :
    (Outcome.ofExcept (written width values a) >>= f) =
      (Outcome.ofExcept (written width values ()) >>= fun _ ↦ f a) := by
  rw [written, written]
  cases values.find? fun value ↦ ¬ HasRoom width value with
  | some value => rfl
  | none => rfl

end

/-- A word is written unless it has no room. -/
theorem encodeWord_eq (hw : IsWordSize width) (value : Nat) :
    encodeWord width value = written width [value] (LittleEndian.encode width.toNat value) := by
  rcases hw with rfl | rfl
  · rw [encodeWord, if_pos rfl, written]
    by_cases h : value < 0x100000000
    · rw [if_pos h, List.find?_cons_of_neg (by simp [HasRoom, h])]
      rfl
    · rw [if_neg h, List.find?_cons_of_pos (by simp [HasRoom, h])]
      rfl
  · rfl

private theorem encodeWords_eq (hw : IsWordSize width) (values : List Nat) :
    encodeWords width values =
      written width values (values.flatMap (LittleEndian.encode width.toNat)) := by
  rw [encodeWords, map_eq_pure_bind, mapM_eq_written (encodeWord_eq hw),
    List.flatMap_singleton' values, List.flatMap_def]
  exact written_map

/-- Where the last function ends: as it is given, or else a fixed gap above the highest entry. It
need not be a word of the machine. -/
def codeEnd (m : Manifest) : Nat :=
  match m.textEnd with
  | some given => given.toNat
  | none => (m.functions.map fun f ↦ f.2.toNat).max?.getD 0 + trailingSize

/-- The end of the last function has to be a word. -/
theorem endOfText_eq_fit (m : Manifest) : m.endOfText = Word.fit m.codeEnd := by
  rw [endOfText, codeEnd]
  cases m.textEnd with
  | some given => exact (Word.fit_of_lt given.toNat_lt).symm
  | none => rfl

/-- The end of the last function has to be a word of the machine. -/
theorem endOfText_eq_ok_iff : m.endOfText = .ok stop ↔ stop = m.codeEnd ∧ stop < Word.limit := by
  rw [endOfText_eq_fit, Word.fit_eq_ok_iff]
  constructor
  · rintro ⟨hlt, rfl⟩
    exact ⟨rfl, hlt⟩
  · rintro ⟨rfl, hlt⟩
    exact ⟨hlt, rfl⟩

/-- The bytes of the header in front of its words. -/
def leadBytes (m : Manifest) : List UInt8 :=
  LittleEndian.encode 4 Header.layoutMagic.toNat ++ [0, 0, m.minInstructionSize, m.pointerSize]

/-- The words of the header. -/
def headerWords (m : Manifest) : List Nat :=
  [m.functions.length, m.files.length, m.nameTableOffset, m.cuTableOffset, m.fileTableOffset,
    m.pcTableOffset, m.functionTableOffset]

/-- A word as the bytes of the image show it. -/
def wordBytes (m : Manifest) (value : Nat) : List UInt8 :=
  LittleEndian.encode m.pointerSize.toNat value

/-- A word has as many bytes as a pointer. -/
theorem length_wordBytes (m : Manifest) (value : Nat) :
    (m.wordBytes value).length = m.pointerSize.toNat :=
  LittleEndian.length_encode _ _

/-- The bytes of a record of the function table. -/
def rowBytes (m : Manifest) (row : Nat × Nat) : List UInt8 :=
  m.wordBytes row.1 ++ m.wordBytes row.2

/-- The records of the functions: an entry and where the descriptor lies. -/
def functionRows (m : Manifest) : List (Nat × Nat) :=
  m.functions.zipIdx.map fun (f, index) ↦ (f.2.toNat, m.metadataOffset index)

/-- The records of the function table: those of the functions, and the end of the last one. -/
def rows (m : Manifest) (stop : Nat) : List (Nat × Nat) := m.functionRows ++ [(stop, 0)]

/-- The used bytes of a descriptor. -/
def descriptorFields (m : Manifest) (f : String × UInt64) : List UInt8 :=
  m.wordBytes f.2.toNat ++ LittleEndian.encode 4 (m.nameOffset f.1)

/-- The bytes of a descriptor, padding included. -/
def paddedDescriptor (m : Manifest) (f : String × UInt64) : List UInt8 :=
  (m.descriptorFields f).rightpad m.descriptorSize 0

/-- The bytes in front of the function table, padding included. -/
def frontBytes (m : Manifest) : List UInt8 :=
  (m.leadBytes ++ m.headerWords.flatMap m.wordBytes ++ m.nameBytes ++ m.unitBytes ++ m.fileBytes ++
    [0]).rightpad m.functionTableOffset 0

/-- The bytes of the image if all numbers have room and the last function ends at `stop`. -/
def image (m : Manifest) (stop : Nat) : List UInt8 :=
  m.frontBytes ++ (m.rows stop).flatMap m.rowBytes ++ m.functions.flatMap m.paddedDescriptor

private theorem image_eq (m : Manifest) (stop : Nat) :
    m.image stop = m.frontBytes ++ (m.functionRows.map m.rowBytes).flatten ++
      m.rowBytes (stop, 0) ++ (m.functions.map m.paddedDescriptor).flatten := by
  rw [image, rows, List.flatMap_append, List.flatMap_singleton, List.flatMap_def, List.flatMap_def]
  simp only [List.append_assoc]

/-- Every number that the image holds in a word has room there. -/
structure AllHaveRoom (m : Manifest) (stop : Nat) : Prop where
  header : ∀ value ∈ m.headerWords, HasRoom m.pointerSize value
  functions : ∀ row ∈ m.functionRows, HasRoom m.pointerSize row.1 ∧ HasRoom m.pointerSize row.2
  stop : HasRoom m.pointerSize stop

/-- The words of some records in their order. -/
def rowWords (rows : List (Nat × Nat)) : List Nat := rows.flatMap fun row ↦ [row.1, row.2]

/-- What holds of the words of some rows holds of both words of each row. -/
theorem forall_mem_rowWords {rows : List (Nat × Nat)} {P : Nat → Prop} :
    (∀ value ∈ rowWords rows, P value) ↔ ∀ row ∈ rows, P row.1 ∧ P row.2 := by
  unfold rowWords
  constructor
  · intro h row hrow
    have hboth := fun value hvalue ↦ h value (List.mem_flatMap_of_mem hrow hvalue)
    exact ⟨hboth _ (by simp), hboth _ (by simp)⟩
  · intro h value hvalue
    obtain ⟨row, hrow, hmem⟩ := List.mem_flatMap.mp hvalue
    obtain ⟨hfirst, hsecond⟩ := h row hrow
    rcases List.mem_cons.mp hmem with rfl | hmem
    · exact hfirst
    · rwa [List.mem_singleton.mp hmem]

private theorem headerBytes_eq (hw : IsWordSize m.pointerSize) :
    m.headerBytes =
      written m.pointerSize m.headerWords (m.leadBytes ++ m.headerWords.flatMap m.wordBytes) := by
  rw [headerBytes, encodeWords_eq hw]
  exact written_map

/-- Two words are written as a record. -/
theorem encodeRow_eq (hw : IsWordSize m.pointerSize) (row : Nat × Nat) :
    encodeWords m.pointerSize [row.1, row.2] =
      written m.pointerSize [row.1, row.2] (m.rowBytes row) := by
  rw [encodeWords_eq hw, List.flatMap_cons, List.flatMap_singleton]
  rfl

private theorem descriptorBytes_eq (hw : IsWordSize m.pointerSize) (f : String × UInt64) :
    m.descriptorBytes f.1 f.2 =
      written m.pointerSize [f.2.toNat] (m.paddedDescriptor f) := by
  rw [descriptorBytes, encodeWord_eq hw]
  exact written_map

private theorem records_eq (hw : IsWordSize m.pointerSize) :
    (m.functions.zipIdx.mapM fun (f, index) ↦ m.recordBytes f.2 index) =
      written m.pointerSize (rowWords m.functionRows) (m.functionRows.map m.rowBytes) := by
  rw [rowWords, functionRows, List.flatMap_map, List.map_map]
  apply mapM_eq_written
  intro x
  exact encodeRow_eq hw (x.1.2.toNat, m.metadataOffset x.2)

private theorem descriptors_eq (hw : IsWordSize m.pointerSize) :
    (m.functions.mapM fun f ↦ m.descriptorBytes f.1 f.2) =
      written m.pointerSize (m.functions.map fun f ↦ f.2.toNat)
        (m.functions.map m.paddedDescriptor) := by
  rw [List.map_eq_flatMap]
  exact mapM_eq_written (descriptorBytes_eq hw) _

/-- Each function has its row, with its entry and its metadata offset. -/
theorem mem_functionRows {i : Nat} (hi : i < m.functions.length) :
    (m.functions[i].2.toNat, m.metadataOffset i) ∈ m.functionRows := by
  refine List.mem_map.mpr ⟨(m.functions[i], i), ?_, rfl⟩
  exact List.mem_zipIdx_iff_getElem?.mpr (List.getElem?_eq_getElem hi)

/-- The entry of each function and the offset of its descriptor are the words of a record. -/
theorem AllHaveRoom.function (h : m.AllHaveRoom stop) {i : Nat} (hi : i < m.functions.length) :
    HasRoom m.pointerSize m.functions[i].2.toNat ∧ HasRoom m.pointerSize (m.metadataOffset i) :=
  h.functions _ (mem_functionRows hi)

private theorem AllHaveRoom.entry (h : m.AllHaveRoom stop) {f : String × UInt64}
    (hf : f ∈ m.functions) :
    HasRoom m.pointerSize f.2.toNat := by
  obtain ⟨i, hi, rfl⟩ := List.mem_iff_getElem.mp hf
  exact (h.function hi).1

/-- Building writes the header and the records of the functions, computes the end of the last
function, and writes that and the descriptors. -/
theorem encode_eq (hw : IsWordSize m.pointerSize) :
    m.encode =
      (Outcome.ofExcept (written m.pointerSize (m.headerWords ++ rowWords m.functionRows) ()) >>=
        fun _ ↦ m.endOfText >>= fun stop ↦
          Outcome.ofExcept (written m.pointerSize
            ([stop, 0] ++ m.functions.map fun f ↦ f.2.toNat) (m.image stop))) := by
  rw [encode, if_neg (by rcases hw with hw | hw <;> simp [hw]), headerBytes_eq hw, records_eq hw,
    descriptors_eq hw, ofExcept_written_bind, ofExcept_written_append, bind_assoc]
  congr 1
  funext _
  rw [ofExcept_written_bind]
  congr 1
  funext _
  congr 1
  funext stop
  rw [encodeRow_eq hw (stop, 0), ofExcept_written_bind, ofExcept_written_append]
  congr 1
  funext _
  rw [image_eq, ofExcept_written_bind]
  exact ofExcept_written_bind.symm.trans (bind_pure _)

/-- An image is built exactly when words have four or eight bytes, the end of the last function is a
word of the machine and every number has room. -/
theorem encode_eq_ok_iff :
    m.encode = .ok bytes ↔
      IsWordSize m.pointerSize ∧
        ∃ stop, m.endOfText = .ok stop ∧ m.AllHaveRoom stop ∧ m.image stop = bytes := by
  by_cases hw : IsWordSize m.pointerSize
  · rw [encode_eq hw]
    simp only [Outcome.bind_eq_ok_iff, Outcome.ofExcept_eq_ok_iff, written_eq_ok_iff,
      List.forall_mem_append, forall_mem_rowWords, List.forall_mem_cons]
    constructor
    · rintro ⟨_, ⟨⟨hheader, hrows⟩, -⟩, stop, hstop, ⟨⟨hroom, -⟩, -⟩, rfl⟩
      exact ⟨hw, stop, hstop, ⟨hheader, hrows, hroom⟩, rfl⟩
    · rintro ⟨-, stop, hstop, hall, rfl⟩
      refine ⟨(), ⟨⟨hall.header, hall.functions⟩, trivial⟩, stop, hstop, ⟨⟨hall.stop, ?_⟩, ?_⟩, rfl⟩
      · exact ⟨fun _ ↦ by decide, nofun⟩
      · exact List.forall_mem_map.mpr fun f hf ↦ hall.entry hf
  · rw [encode, if_pos (not_or.mp hw)]
    exact ⟨nofun, fun h ↦ absurd h.1 hw⟩

end FuncMeta.Manifest
