import FuncMeta.Region

/-!
# Fields of executables

The words of an executable have one of two byte orders, which the executable itself declares. A
field is a word at a fixed place from the start of the structure that it belongs to. A part that the
file does not hold, or that contradicts another one, makes the executable malformed.
-/

namespace FuncMeta

/-- Why the sections of an executable cannot be told. -/
inductive Malformation where
  /-- The file does not hold as many bytes as any executable starts with. -/
  | tooShort (size : Nat)
  /-- The format is known, but nothing in it is read. -/
  | unreadFormat
  /-- The width of the addresses is not given. -/
  | addressClass (value : UInt8)
  /-- The order of the bytes in a word is not given. -/
  | byteOrder (value : UInt8)
  /-- A part of the file ends too early. -/
  | truncated (part : String)
  /-- More of these parts are announced than there is room for. -/
  | tooMany (part : String)
  /-- A part covers bytes or addresses that there are not. -/
  | outside (part : String)
  /-- The section names are not text. -/
  | namesNotText
deriving DecidableEq, Repr

namespace Malformation

/-- The text of a malformation. -/
def message : Malformation → String
  | tooShort size => s!"{size} bytes are too few"
  | unreadFormat => "unreadable format"
  | addressClass value => s!"unknown address class {value}"
  | byteOrder value => s!"unknown byte order {value}"
  | truncated part => s!"truncated {part}"
  | tooMany part => s!"too many of: {part}"
  | outside part => s!"{part} out of bounds"
  | namesNotText => "section names are not UTF-8"

/-- A malformed executable as a failure of reading bytes from it. -/
def toRegionError (m : Malformation) : RegionError :=
  .malformedContainer s!"Failed to parse binary: {m.message}"

end Malformation

/-- The order of the bytes in a word. -/
inductive ByteOrder where
  /-- The lowest digits first. -/
  | little
  /-- The highest digits first. -/
  | big
deriving DecidableEq, Repr

/-- The number that bytes stand for. -/
def ByteOrder.value (o : ByteOrder) (bytes : List UInt8) : Nat :=
  match o with
  | little => LittleEndian.decode bytes
  | big => LittleEndian.decode bytes.reverse

/-- The place of a field in a structure. -/
structure Field where
  /-- The number of bytes before the field. -/
  offset : Nat
  /-- The number of bytes of the field. -/
  width : Nat
deriving DecidableEq, Repr

namespace Region

/-- The word in a field of the structure that starts at an offset. -/
def field? (r : Region) (order : ByteOrder) (start : Nat) (f : Field) : Option Nat :=
  match r.slice (start + f.offset) f.width with
  | .ok word => some (order.value word.toList)
  | .error _ => none

/-- The word in a field of a part that has to lie in the region. -/
def fieldOf (r : Region) (order : ByteOrder) (part : String) (start : Nat) (f : Field) :
    Except Malformation Nat :=
  match r.field? order start f with
  | some value => .ok value
  | none => .error (.truncated part)

end Region

end FuncMeta
