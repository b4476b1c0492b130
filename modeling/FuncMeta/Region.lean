import FuncMeta.Text.Numeral
import FuncMeta.Word

/-!
# Byte regions

A region is a run of bytes in memory, so it is shorter than half the address space. Everything
about a region follows from its list of bytes, `Region.toList`. Words in it are little-endian. Every
read either lies in the region or fails, and says what was asked for; nothing is read beyond the
region's end.
-/

namespace FuncMeta

/-- Why bytes could not be read. -/
inductive RegionError where
  /-- The system refused the file. -/
  | io (reason : String)
  /-- `length` bytes at `offset` do not lie in a region of `size` bytes. -/
  | outOfBounds (offset length size : Nat)
  /-- None of the `limit` bytes from `offset` on is zero. -/
  | unterminated (offset limit : Nat)
  /-- Words of this many bytes are not read. -/
  | unsupportedWordSize (width : UInt8)
  /-- An executable is malformed. -/
  | malformedContainer (reason : String)
  /-- An executable has none of the sections asked for. -/
  | sectionNotFound (names : String)
  /-- What was asked for is well formed but not supported. -/
  | notSupported (reason : String)
deriving DecidableEq, Repr

namespace RegionError

/-- The text of a failure. -/
def message : RegionError → String
  | io reason => s!"IO error: {reason}"
  | outOfBounds offset length size =>
    s!"Out of bounds: {length} bytes at offset 0x{Numeral.hex 1 offset} exceed region of " ++
      s!"{size} bytes"
  | unterminated offset limit =>
    s!"No null terminator within {limit} bytes at offset 0x{Numeral.hex 1 offset}"
  | unsupportedWordSize width => s!"Unsupported word size: {width}"
  | malformedContainer reason => s!"Binary parse error: {reason}"
  | sectionNotFound names => s!"Section not found: {names}"
  | notSupported reason => s!"Not supported: {reason}"

end RegionError

/-- Bytes that lie in memory together. -/
structure Region where
  /-- The bytes. -/
  bytes : ByteArray
  /-- No object takes more than half of the address space. -/
  size_lt : bytes.size < Word.half

namespace Region

/-- The region of some bytes, unless they are too many. -/
def ofBytes? (bytes : ByteArray) : Option Region :=
  if h : bytes.size < Word.half then some { bytes := bytes, size_lt := h } else none

/-- The region without bytes. -/
def empty : Region where
  bytes := ByteArray.empty
  size_lt := by simp

/-- The number of bytes. -/
def size (r : Region) : Nat := r.bytes.size

/-- The bytes in order. -/
def toList (r : Region) : List UInt8 := r.bytes.data.toList

/-- Regions with the same bytes are the same. -/
theorem ext {r s : Region} (h : r.toList = s.toList) : r = s := by
  cases r
  cases s
  congr 1
  exact ByteArray.ext (Array.toList_inj.mp h)

/-- The list of the bytes is as long as the region. -/
@[simp] theorem length_toList (r : Region) : r.toList.length = r.size := by
  simp [toList, size]

/-- A region is shorter than half the address space. -/
theorem size_lt_half (r : Region) : r.size < Word.half := r.size_lt

/-- Regions are equal if they hold the same bytes. -/
instance : DecidableEq Region := fun r s ↦
  decidable_of_iff (r.toList = s.toList) ⟨ext, congrArg toList⟩

/-- The bytes from `start` up to, not including, `stop`. -/
def extract (r : Region) (start stop : Nat) : Region where
  bytes := r.bytes.extract start (min stop r.size)
  size_lt := by
    have := r.size_lt
    simp only [ByteArray.size_extract, size]
    omega

/-- The bytes of a part of a region are those from its start on, up to its stop. -/
theorem toList_extract (r : Region) (start stop : Nat) :
    (r.extract start stop).toList = (r.toList.drop start).take (stop - start) := by
  have h : (r.extract start stop).toList =
      (r.toList.drop start).take (min stop r.size - start) := by
    simp [toList, extract, List.extract_eq_take_drop]
  rw [h, List.take_eq_take_iff]
  simp
  omega

/-- A part of a region reaches up to its stop or to the end of the region. -/
theorem size_extract (r : Region) (start stop : Nat) :
    (r.extract start stop).size = min stop r.size - start := by
  simp [size, extract]

/-- The first `n` bytes, or all of them if there are fewer. -/
def take (r : Region) (n : Nat) : Region := r.extract 0 n

/-- The first part of a region has its first bytes. -/
theorem toList_take (r : Region) (n : Nat) : (r.take n).toList = r.toList.take n := by
  simp [take, toList_extract]

/-- The first part of a region has as many bytes as asked for, if there are as many. -/
@[simp] theorem size_take (r : Region) (n : Nat) : (r.take n).size = min n r.size := by
  simp [take, size_extract]

/-- The byte at an offset. -/
def byte? (r : Region) (offset : Nat) : Option UInt8 := r.bytes[offset]?

/-- The `length` bytes from `offset` on, which have to lie in the region. -/
def slice (r : Region) (offset length : Nat) : Except RegionError Region :=
  if offset + length ≤ r.size then .ok (r.extract offset (offset + length))
  else .error (.outOfBounds offset length r.size)

/-- Bytes that lie in the region are given. -/
theorem slice_of_le {r : Region} {offset length : Nat} (h : offset + length ≤ r.size) :
    r.slice offset length = .ok (r.extract offset (offset + length)) := by
  rw [slice, if_pos h]

/-- Bytes that do not all lie in the region are refused. -/
theorem slice_of_lt {r : Region} {offset length : Nat} (h : r.size < offset + length) :
    r.slice offset length = .error (.outOfBounds offset length r.size) := by
  rw [slice, if_neg (by omega)]

/-- The number in the `width` bytes from `offset` on. -/
def readNat (r : Region) (offset width : Nat) : Except RegionError Nat :=
  (r.slice offset width).map fun s ↦ LittleEndian.decode s.toList

/-- The byte at `offset`. -/
def readUInt8 (r : Region) (offset : Nat) : Except RegionError UInt8 :=
  (r.readNat offset 1).map UInt8.ofNat

/-- The word of four bytes at `offset`. -/
def readUInt32 (r : Region) (offset : Nat) : Except RegionError UInt32 :=
  (r.readNat offset 4).map UInt32.ofNat

/-- The signed word of four bytes at `offset`. -/
def readInt32 (r : Region) (offset : Nat) : Except RegionError Int32 :=
  (r.readUInt32 offset).map UInt32.toInt32

/-- The word of eight bytes at `offset`. -/
def readUInt64 (r : Region) (offset : Nat) : Except RegionError UInt64 :=
  (r.readNat offset 8).map UInt64.ofNat

/-- The word of `width` bytes at `offset`, for a width of four or eight. -/
def readWord (r : Region) (offset : Nat) (width : UInt8) : Except RegionError UInt64 :=
  if width = 4 then (r.readUInt32 offset).map UInt32.toUInt64
  else if width = 8 then r.readUInt64 offset
  else .error (.unsupportedWordSize width)

/-- The signed word of `width` bytes at `offset`, for a width of four or eight. -/
def readSignedWord (r : Region) (offset : Nat) (width : UInt8) : Except RegionError Int64 :=
  if width = 4 then (r.readInt32 offset).map Int32.toInt64
  else if width = 8 then (r.readUInt64 offset).map UInt64.toInt64
  else .error (.unsupportedWordSize width)

/-- The offset of the first zero among the given number of bytes from `offset` on. -/
def zeroWithin? (r : Region) (offset : Nat) : (length : Nat) → Option Nat
  | 0 => none
  | length + 1 =>
    if r.byte? offset = some 0 then some offset else r.zeroWithin? (offset + 1) length

/-- The bytes from `offset` up to the first zero, which has to stand before `stop`. -/
def readCString (r : Region) (offset stop : Nat) : Except RegionError Region :=
  if offset ≤ stop ∧ stop ≤ r.size then
    match r.zeroWithin? offset (stop - offset) with
    | some found => .ok (r.extract offset found)
    | none => .error (.unterminated offset (stop - offset))
  else .error (.outOfBounds offset (stop - offset) r.size)

end Region

end FuncMeta
