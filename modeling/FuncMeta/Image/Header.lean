import FuncMeta.Image.Error
import FuncMeta.Region

/-!
# Image headers

The header opens with the magic, two unused bytes, the least size of an instruction and the size of
a pointer; seven words of that size follow: the number of functions, the number of files, and the
offsets of the five tables from the start of the region.
-/

namespace FuncMeta

/-- The fields at the start of an image. -/
structure Header where
  /-- The word that marks the layout. -/
  magic : UInt32
  /-- The least number of bytes in an instruction. -/
  minInstructionSize : UInt8
  /-- The number of bytes in a pointer, and in every word of the image. -/
  pointerSize : UInt8
  /-- The number of functions. -/
  functionCount : UInt64
  /-- The number of files. -/
  fileCount : UInt64
  /-- Where the names of the functions start. -/
  nameTableOffset : UInt64
  /-- Where the compilation units start. -/
  cuTableOffset : UInt64
  /-- Where the names of the files start. -/
  fileTableOffset : UInt64
  /-- Where the code position tables start. -/
  pcTableOffset : UInt64
  /-- Where the records of the functions start. -/
  functionTableOffset : UInt64
deriving DecidableEq, Repr

namespace Header

/-- The magic of the one layout that is decoded. -/
def layoutMagic : UInt32 := 0xfffffffa

/-- The number of bytes before the first word. -/
def leadSize : Nat := 8

/-- The number of bytes in a header whose pointers have the given size. -/
def sizeFor (pointerSize : UInt8) : Nat := leadSize + 7 * pointerSize.toNat

/-- The number of bytes in the header. -/
def size (h : Header) : Nat := sizeFor h.pointerSize

/-- The number of bytes in a record of the function table: an entry and an offset. -/
def recordSize (h : Header) : Nat := 2 * h.pointerSize.toNat

/-- Where a table starts; a descriptor has no place of its own. -/
def offset? (h : Header) : TableKind → Option Nat
  | .functionName => some h.nameTableOffset.toNat
  | .compilationUnit => some h.cuTableOffset.toNat
  | .file => some h.fileTableOffset.toNat
  | .programCounter => some h.pcTableOffset.toNat
  | .function => some h.functionTableOffset.toNat
  | .descriptor => none

/-- The tables in declared order, each with the place where it starts. -/
def tables (h : Header) : List (TableKind × Nat) :=
  [(.functionName, h.nameTableOffset.toNat), (.compilationUnit, h.cuTableOffset.toNat),
    (.file, h.fileTableOffset.toNat), (.programCounter, h.pcTableOffset.toNat),
    (.function, h.functionTableOffset.toNat)]

/-- The first start among the tables declared later that does not lie before `start`, or else the
first start of any table that lies beyond it. -/
def nextStart? (h : Header) (kind : TableKind) (start : Nat) : Option Nat :=
  ((kind.later.filterMap h.offset?).filter (start ≤ ·)).min? <|>
    ((h.tables.map Prod.snd).filter (start < ·)).min?

/-- Where a table ends in a region of `regionSize` bytes: where the next one starts, but not beyond
the region. -/
def tableEnd (h : Header) (kind : TableKind) (regionSize : Nat) : Nat :=
  match (h.offset? kind).bind (h.nextStart? kind) with
  | some stop => min stop regionSize
  | none => regionSize

/-- The first table that starts outside a region of `regionSize` bytes. -/
def tableOutside? (h : Header) (regionSize : Nat) : Option (TableKind × Nat) :=
  h.tables.find? fun table ↦ regionSize ≤ table.2

/-- The number of functions as a count; a negative number is none. -/
def functionCount? (raw : Int64) : Except LayoutError UInt64 :=
  if raw < 0 then .error (.negativeFunctionCount raw) else .ok raw.toUInt64

/-- Reads the words of a header whose pointers have the given size. -/
def readWords (r : Region) (magic : UInt32) (minInstructionSize pointerSize : UInt8) :
    Except LayoutError Header := do
  let place (index : Nat) := leadSize + index * pointerSize.toNat
  let word (index : Nat) := (r.readWord (place index) pointerSize).mapError .region
  let count ← (r.readSignedWord (place 0) pointerSize).mapError .region
  return {
    magic
    minInstructionSize
    pointerSize
    functionCount := ← functionCount? count
    fileCount := ← word 1
    nameTableOffset := ← word 2
    cuTableOffset := ← word 3
    fileTableOffset := ← word 4
    pcTableOffset := ← word 5
    functionTableOffset := ← word 6 }

/-- The header at the start of a region. The magic is checked before anything else is read, and
every table has to start inside the region. -/
def decode (r : Region) : Except LayoutError Header :=
  if r.size < 4 then .error (.truncatedHeader 4 r.size)
  else do
    let magic ← (r.readUInt32 0).mapError .region
    if magic ≠ layoutMagic then .error (.invalidMagic magic layoutMagic)
    else if r.size < leadSize then .error (.truncatedHeader leadSize r.size)
    else do
      let minInstructionSize ← (r.readUInt8 6).mapError .region
      let pointerSize ← (r.readUInt8 7).mapError .region
      if pointerSize ≠ 4 ∧ pointerSize ≠ 8 then .error (.unsupportedPointerSize pointerSize)
      else if r.size < sizeFor pointerSize then
        .error (.truncatedHeader (sizeFor pointerSize) r.size)
      else do
        let header ← readWords r magic minInstructionSize pointerSize
        match header.tableOutside? r.size with
        | some (table, offset) => .error (.offsetOutOfBounds table offset r.size)
        | none => .ok header

end Header

end FuncMeta
