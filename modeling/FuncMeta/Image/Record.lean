import FuncMeta.Address
import FuncMeta.Image.Header

/-!
# What an image says about its functions

An image is a region read under a header. Its function table holds one record for each function and
one more, whose entry is the end of the last function. `Image.records` reads the table from its
start and says how the walk ends.

A record's metadata offset leads to the descriptor of its function: the entry once more as a word,
eight fields of four bytes, and four bytes of which the first and the last are used. Offsets count
from the start of the function table. A descriptor says where in the name table the name of the
function starts. Names are UTF-8 and end with a zero byte, which has to stand inside the table.
-/

namespace FuncMeta

/-- A region read under a header. The header need not be the one that the region starts with. -/
structure Image where
  /-- The bytes. -/
  region : Region
  /-- The fields that say where the tables lie. -/
  header : Header
deriving DecidableEq

/-- A row of the function table. -/
structure Record where
  /-- Where the code of the function starts. -/
  entry : Address
  /-- Where its descriptor lies, from the start of the function table. -/
  metadataOffset : UInt64
deriving DecidableEq, Repr

namespace Image

/-- A region read under the header that it starts with. -/
def ofRegion (r : Region) : Except LayoutError Image :=
  (Header.decode r).map fun header ↦ { region := r, header := header }

/-- The number of functions. -/
def count (t : Image) : Nat := t.header.functionCount.toNat

/-- Where a record starts, if all of it lies in the region. -/
def recordOffset? (t : Image) (index : Nat) : Option Nat := do
  let relative ← Word.mul? index t.header.recordSize
  let offset ← Word.add? relative t.header.functionTableOffset.toNat
  let stop ← Word.add? offset t.header.recordSize
  if stop ≤ t.region.size then some offset else none

/-- A word of the image. -/
def word (t : Image) (offset : Nat) : Outcome LayoutError UInt64 :=
  LayoutError.ofRead (t.region.readWord offset t.header.pointerSize)

/-- The record at an index of a table that is said to hold `count` records. -/
def record (t : Image) (index count : Nat) : Outcome LayoutError Record :=
  match t.recordOffset? index with
  | none => .error (.truncatedTable index count)
  | some offset => do
    let entry ← t.word offset
    let second ← Word.fit (offset + t.header.pointerSize.toNat)
    let metadataOffset ← t.word second
    return { entry := ⟨entry⟩, metadataOffset }

/-- The record of a function, if there is a function with this index. -/
def get? (t : Image) (index : Nat) : Outcome LayoutError (Option Record) :=
  if index < t.count then some <$> t.record index t.count else .ok none

/-- The end of the last function: the entry of the record after the last one. -/
def endOfText (t : Image) : Outcome LayoutError Address :=
  Record.entry <$> t.record t.count (Word.saturate (t.count + 1))

/-- Up to `remaining` records from an index on, and how reading them ends. -/
def recordsFrom (t : Image) : (remaining index : Nat) → List Record × Outcome LayoutError Unit
  | 0, _ => ([], .ok ())
  | remaining + 1, index =>
    match t.record index t.count with
    | .ok record =>
      let rest := t.recordsFrom remaining (index + 1)
      (record :: rest.1, rest.2)
    | .error e => ([], .error e)
    | .halt => ([], .halt)

/-- The records from the first one on, and how reading them ends. -/
def records (t : Image) : List Record × Outcome LayoutError Unit := t.recordsFrom t.count 0

end Image

/-- What an image says about one function. -/
structure Descriptor where
  /-- Where the code of the function starts. -/
  entry : Address
  /-- Where its name lies in the name table. -/
  nameOffset : Int32
  /-- The size of its arguments. -/
  args : Int32
  /-- Where its deferred calls return to. -/
  deferReturn : UInt32
  /-- The code position table of stack sizes. -/
  pcsp : UInt32
  /-- The code position table of files. -/
  pcfile : UInt32
  /-- The code position table of lines. -/
  pcln : UInt32
  /-- The number of further code position tables. -/
  npcdata : UInt32
  /-- Where its compilation unit starts. -/
  cuOffset : UInt32
  /-- Which special function it is, if any. -/
  funcId : UInt8
  /-- The number of further data pointers. -/
  nfuncdata : UInt8
deriving DecidableEq, Repr

namespace Descriptor

/-- The number of bytes after the entry. -/
def fixedSize : Nat := 8 * 4 + 4

/-- The number of bytes in a descriptor of an image whose pointers have the given size. -/
def sizeFor (pointerSize : UInt8) : Nat := pointerSize.toNat + fixedSize

end Descriptor

namespace Image

/-- Where the descriptor at a metadata offset starts, if `needed` bytes of it lie in the region. -/
def descriptorOffset? (t : Image) (metadataOffset needed : Nat) : Option Nat := do
  let start ← Word.add? t.header.functionTableOffset.toNat metadataOffset
  let stop ← Word.add? start needed
  if stop ≤ t.region.size then some start else none

/-- The start of the descriptor at a metadata offset, `needed` bytes of which have to lie in the
region. -/
def descriptorStart (t : Image) (metadataOffset needed : Nat) : Outcome LayoutError Nat :=
  match t.descriptorOffset? metadataOffset needed with
  | some start => .ok start
  | none => .error (.offsetOutOfBounds .descriptor metadataOffset t.region.size)

/-- The descriptor at a metadata offset. -/
def descriptor (t : Image) (metadataOffset : UInt64) : Outcome LayoutError Descriptor := do
  let width := t.header.pointerSize
  let base ← t.descriptorStart metadataOffset.toNat (Descriptor.sizeFor width)
  let field (offset : Nat) : Outcome LayoutError Nat := Word.fit (base + width.toNat + offset)
  let int32 (index : Nat) : Outcome LayoutError Int32 := do
    LayoutError.ofRead (t.region.readInt32 (← field (4 * index)))
  let uint32 (index : Nat) : Outcome LayoutError UInt32 := do
    LayoutError.ofRead (t.region.readUInt32 (← field (4 * index)))
  let uint8 (offset : Nat) : Outcome LayoutError UInt8 := do
    LayoutError.ofRead (t.region.readUInt8 (← field offset))
  let entry ← t.word base
  return {
    entry := ⟨entry⟩
    nameOffset := ← int32 0
    args := ← int32 1
    deferReturn := ← uint32 2
    pcsp := ← uint32 3
    pcfile := ← uint32 4
    pcln := ← uint32 5
    npcdata := ← uint32 6
    cuOffset := ← uint32 7
    funcId := ← uint8 32
    nfuncdata := ← uint8 35 }

/-- The name offset of the descriptor at a metadata offset. Only this field and what stands before
it has to lie in the region. -/
def nameOffset (t : Image) (metadataOffset : UInt64) : Outcome LayoutError Int32 := do
  let width := t.header.pointerSize.toNat
  let base ← t.descriptorStart metadataOffset.toNat (width + 4)
  let place ← Word.fit (base + width)
  LayoutError.ofRead (t.region.readInt32 place)

/-- The end of the name table. -/
def nameTableEnd (t : Image) : Nat := t.header.tableEnd .functionName t.region.size

/-- The number of bytes in the name table. -/
def nameTableSize (t : Image) : Nat := t.nameTableEnd - t.header.nameTableOffset.toNat

/-- The name whose bytes start at a place in the region. -/
def nameFrom (t : Image) (place : Nat) : Except LayoutError String :=
  match t.region.readCString place t.nameTableEnd with
  | .error (.unterminated _ _) => .error (.unterminatedName place)
  | .error failure => .error (.region failure)
  | .ok found =>
    match String.fromUTF8? found.bytes with
    | some name => .ok name
    | none => .error (.invalidNameEncoding place)

/-- The name at an offset from the start of the name table. -/
def nameAt (t : Image) (offset : Int32) : Outcome LayoutError String :=
  if 0 ≤ offset.toInt ∧ offset.toInt ≤ t.nameTableSize then do
    let place ← Word.fit (t.header.nameTableOffset.toNat + offset.toInt.toNat)
    Outcome.ofExcept (t.nameFrom place)
  else .error (.invalidNameOffset offset t.nameTableSize)

/-- The name of the function whose descriptor lies at a metadata offset. -/
def name (t : Image) (metadataOffset : UInt64) : Outcome LayoutError String := do
  let offset ← t.nameOffset metadataOffset
  t.nameAt offset

end Image

end FuncMeta
