import FuncMeta.Image.Record

/-!
# Building images

A manifest says what an image is to hold. Its image consists of the header, the names, the
compilation units, the files, an empty code position table and, aligned to a word, the function
table with its descriptors. Functions keep the order of the manifest, and functions of one name
share its bytes.

UTF-8 writes the null character as a zero byte, and no other character with one. So of a name with a
null character an image shows what stands in front of it: `beforeNull`. Main statements:
`zero_notMem_beforeNull` and `exists_terminated_eq`.
-/

namespace FuncMeta

/-- What an image is to hold. -/
structure Manifest where
  /-- The number of bytes in a pointer. -/
  pointerSize : UInt8
  /-- The least number of bytes in an instruction. -/
  minInstructionSize : UInt8 := 1
  /-- The name and the entry of each function. -/
  functions : List (String × UInt64) := []
  /-- The names of the files. -/
  files : List String := []
  /-- The end of the last function, if it is given. -/
  textEnd : Option UInt64 := none
deriving DecidableEq, Repr

namespace Manifest

/-- The least multiple of `unit` that is not below `n`. -/
def align (n unit : Nat) : Nat := (n + unit - 1) / unit * unit

/-- The bytes of a word of the image, which has four bytes or else eight. -/
def encodeWord (width : UInt8) (value : Nat) : Except LayoutError (List UInt8) :=
  if width = 4 then
    if value < 0x100000000 then .ok (LittleEndian.encode 4 value)
    else
      .error (.region (.notSupported
        s!"value 0x{Numeral.hex 1 value} does not fit a 4-byte word"))
  else .ok (LittleEndian.encode 8 value)

/-- The bytes of several words. -/
def encodeWords (width : UInt8) (values : List Nat) : Except LayoutError (List UInt8) :=
  List.flatten <$> values.mapM (encodeWord width)

/-- The bytes of a text and the zero after it. -/
def terminated (text : String) : List UInt8 := text.toByteArray.data.toList ++ [0]

/-- The names of the functions, each where it first occurs. -/
def names (m : Manifest) : List String := (m.functions.map Prod.fst).eraseDups

/-- The bytes of the name table. -/
def nameBytes (m : Manifest) : List UInt8 := m.names.flatMap terminated

/-- Where a name starts in the name table. -/
def nameOffset (m : Manifest) (name : String) : Nat :=
  ((m.names.takeWhile (· ≠ name)).flatMap terminated).length

/-- The bytes of the file table. -/
def fileBytes (m : Manifest) : List UInt8 := m.files.flatMap terminated

/-- Where each of some texts starts when they are written one after another. -/
def startsFrom (start : Nat) : List String → List Nat
  | [] => []
  | text :: rest => start :: startsFrom (start + (terminated text).length) rest

/-- The bytes of the compilation unit table: where each file starts in the file table. -/
def unitBytes (m : Manifest) : List UInt8 :=
  (startsFrom 0 m.files).flatMap (LittleEndian.encode 4)

/-- Where the name table starts. -/
def nameTableOffset (m : Manifest) : Nat := Header.sizeFor m.pointerSize

/-- Where the compilation unit table starts. -/
def cuTableOffset (m : Manifest) : Nat := m.nameTableOffset + m.nameBytes.length

/-- Where the file table starts. -/
def fileTableOffset (m : Manifest) : Nat := m.cuTableOffset + m.unitBytes.length

/-- Where the code position table starts. -/
def pcTableOffset (m : Manifest) : Nat := m.fileTableOffset + m.fileBytes.length

/-- Where the function table starts: aligned, after the one byte of the code position table. -/
def functionTableOffset (m : Manifest) : Nat := align (m.pcTableOffset + 1) m.pointerSize.toNat

/-- The number of bytes that a descriptor takes, padding included. -/
def descriptorSize (m : Manifest) : Nat :=
  align (Descriptor.sizeFor m.pointerSize) m.pointerSize.toNat

/-- Where the descriptor of a function lies, from the start of the function table. -/
def metadataOffset (m : Manifest) (index : Nat) : Nat :=
  (m.functions.length + 1) * (2 * m.pointerSize.toNat) + index * m.descriptorSize

/-- The gap after the highest entry when the end of the last function is not given. -/
def trailingSize : Nat := 0x1000

/-- The end of the last function. The machine halts if it is not given and leaves the address
space. -/
def endOfText (m : Manifest) : Outcome LayoutError Nat :=
  match m.textEnd with
  | some stop => .ok stop.toNat
  | none => Word.fit ((m.functions.map fun f ↦ f.2.toNat).max?.getD 0 + trailingSize)

/-- The bytes of the header. -/
def headerBytes (m : Manifest) : Except LayoutError (List UInt8) := do
  let words ← encodeWords m.pointerSize [m.functions.length, m.files.length, m.nameTableOffset,
    m.cuTableOffset, m.fileTableOffset, m.pcTableOffset, m.functionTableOffset]
  return LittleEndian.encode 4 Header.layoutMagic.toNat ++
    [0, 0, m.minInstructionSize, m.pointerSize] ++ words

/-- The bytes of the record of one function. -/
def recordBytes (m : Manifest) (entry : UInt64) (index : Nat) : Except LayoutError (List UInt8) :=
  encodeWords m.pointerSize [entry.toNat, m.metadataOffset index]

/-- The bytes of the descriptor of one function: all fields after the name offset are zero. -/
def descriptorBytes (m : Manifest) (name : String) (entry : UInt64) :
    Except LayoutError (List UInt8) := do
  let word ← encodeWord m.pointerSize entry.toNat
  let fields := word ++ LittleEndian.encode 4 (m.nameOffset name)
  return fields.rightpad m.descriptorSize 0

/-- The bytes of the image. -/
def encode (m : Manifest) : Outcome LayoutError (List UInt8) :=
  if m.pointerSize ≠ 4 ∧ m.pointerSize ≠ 8 then .error (.unsupportedPointerSize m.pointerSize)
  else do
    let header ← .ofExcept m.headerBytes
    let tables := header ++ m.nameBytes ++ m.unitBytes ++ m.fileBytes ++ [0]
    let records ← .ofExcept (m.functions.zipIdx.mapM fun (f, index) ↦ m.recordBytes f.2 index)
    let stop ← m.endOfText
    let sentinel ← .ofExcept (encodeWords m.pointerSize [stop, 0])
    let descriptors ← .ofExcept (m.functions.mapM fun f ↦ m.descriptorBytes f.1 f.2)
    return tables.rightpad m.functionTableOffset 0 ++ records.flatten ++ sentinel ++
      descriptors.flatten

end Manifest

/-- The characters of a text in front of its first null character. -/
def beforeNull (text : String) : String := .ofList (text.toList.takeWhile (· ≠ '\x00'))

private theorem bytes_eq_flatMap (text : String) :
    text.toByteArray.data.toList = text.toList.flatMap String.utf8EncodeChar := by
  rw [← String.utf8Encode_toList, List.utf8Encode, List.data_toByteArray]

private theorem bytes_beforeNull (text : String) :
    (beforeNull text).toByteArray.data.toList =
      (text.toList.takeWhile (· ≠ '\x00')).flatMap String.utf8EncodeChar := by
  rw [bytes_eq_flatMap, beforeNull, String.toList_ofList]

private theorem ofNat_ne_zero {n : Nat} (hpos : 0 < n) (hlt : n < 256) :
    (0 : UInt8) ≠ .ofNat n := by
  intro h
  have hmod := (UInt8.ofNat_eq_iff_mod_eq_toNat n 0).mp h.symm
  change n % 256 = 0 at hmod
  omega

/-- Of all characters only the null character is written with a zero byte: a lead byte of a longer
sequence is at least 192, and each byte behind it at least 128. -/
theorem zero_notMem_utf8EncodeChar {c : Char} (hc : c ≠ '\x00') :
    0 ∉ String.utf8EncodeChar c := by
  have hpos : 0 < c.val.toNat := by
    apply Nat.pos_of_ne_zero
    intro hzero
    exact hc (Char.val_inj.mp (UInt32.toNat_inj.mp hzero))
  unfold String.utf8EncodeChar
  dsimp only
  split
  · simp only [List.mem_singleton]
    exact ofNat_ne_zero hpos (by omega)
  split
  · simp only [List.mem_cons, List.not_mem_nil, or_false, not_or]
    exact ⟨ofNat_ne_zero (by omega) (by omega), ofNat_ne_zero (by omega) (by omega)⟩
  split
  · simp only [List.mem_cons, List.not_mem_nil, or_false, not_or]
    exact ⟨ofNat_ne_zero (by omega) (by omega), ofNat_ne_zero (by omega) (by omega),
      ofNat_ne_zero (by omega) (by omega)⟩
  · simp only [List.mem_cons, List.not_mem_nil, or_false, not_or]
    exact ⟨ofNat_ne_zero (by omega) (by omega), ofNat_ne_zero (by omega) (by omega),
      ofNat_ne_zero (by omega) (by omega), ofNat_ne_zero (by omega) (by omega)⟩

/-- No byte in front of the first null character is zero. -/
theorem zero_notMem_beforeNull (text : String) :
    0 ∉ (beforeNull text).toByteArray.data.toList := by
  rw [bytes_beforeNull, List.mem_flatMap]
  rintro ⟨c, hc, hzero⟩
  have hne : c ≠ '\x00' := of_decide_eq_true (List.all_eq_true.mp List.all_takeWhile c hc)
  exact zero_notMem_utf8EncodeChar hne hzero

/-- A text without a zero byte has no null character. -/
theorem beforeNull_eq_self {text : String} (hz : 0 ∉ text.toByteArray.data.toList) :
    beforeNull text = text := by
  rw [bytes_eq_flatMap] at hz
  have hall : ∀ c ∈ text.toList, decide (c ≠ '\x00') = true := by
    intro c hc
    apply decide_eq_true
    rintro rfl
    exact hz (List.mem_flatMap_of_mem hc (List.mem_singleton_self _))
  have hkept : (text.toList ++ []).takeWhile (· ≠ '\x00') = text.toList ++ [] :=
    List.takeWhile_append_of_pos hall
  rw [List.append_nil] at hkept
  rw [beforeNull, hkept, String.ofList_toList]

/-- A text and the zero behind it go on with a zero after the first null character. -/
theorem exists_terminated_eq (text : String) :
    ∃ back, Manifest.terminated text =
      (beforeNull text).toByteArray.data.toList ++ ([0] ++ back) := by
  rw [Manifest.terminated, bytes_eq_flatMap, bytes_beforeNull]
  generalize text.toList = cs
  induction cs with
  | nil => exact ⟨[], rfl⟩
  | cons c cs ih =>
    by_cases hc : c = '\x00'
    · subst hc
      exact ⟨cs.flatMap String.utf8EncodeChar ++ [0], rfl⟩
    · obtain ⟨back, hback⟩ := ih
      have hkept : (c :: cs).takeWhile (· ≠ '\x00') = c :: cs.takeWhile (· ≠ '\x00') :=
        List.takeWhile_cons_of_pos (decide_eq_true hc)
      refine ⟨back, ?_⟩
      rw [hkept, List.flatMap_cons, List.flatMap_cons, List.append_assoc, hback, List.append_assoc]

end FuncMeta
