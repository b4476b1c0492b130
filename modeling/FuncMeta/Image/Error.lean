import FuncMeta.Outcome
import FuncMeta.Region

/-!
# Tables of an image and failures of decoding it

An image declares five tables in its header, in a fixed order. A descriptor is no table of its own,
but bounds are reported for it in the same way. Each failure says which rule of the layout the bytes
break. All of them mean that the bytes are not an image of this layout, except a failure of the
system to hand over the bytes.
-/

namespace FuncMeta

/-- What a part of an image holds. -/
inductive TableKind where
  /-- The names of the functions. -/
  | functionName
  /-- The offsets of the compilation units' files. -/
  | compilationUnit
  /-- The names of the files. -/
  | file
  /-- The tables that map code positions to values. -/
  | programCounter
  /-- The records of the functions. -/
  | function
  /-- The descriptor of one function. -/
  | descriptor
deriving DecidableEq, Repr

namespace TableKind

/-- What reports and errors call it. -/
def name : TableKind → String
  | functionName => "function name table"
  | compilationUnit => "compilation unit table"
  | file => "file table"
  | programCounter => "pc table"
  | function => "function table"
  | descriptor => "function descriptor"

/-- The tables of the header, in the order of their offsets there. -/
def declared : List TableKind := [functionName, compilationUnit, file, programCounter, function]

/-- The tables that the header declares after this one. -/
def later : TableKind → List TableKind
  | functionName => [compilationUnit, file, programCounter, function]
  | compilationUnit => [file, programCounter, function]
  | file => [programCounter, function]
  | programCounter => [function]
  | function => []
  | descriptor => []

/-- The tables after a declared table are the rest of the declared order. -/
theorem later_eq_drop : ∀ i, (h : i < declared.length) →
    declared[i].later = declared.drop (i + 1) := by
  decide

end TableKind

/-- Why bytes are not an image, or why a part of an image cannot be decoded. -/
inductive LayoutError where
  /-- The first word is not the magic of the layout. -/
  | invalidMagic (found expected : UInt32)
  /-- The region ends inside the header. -/
  | truncatedHeader (needed available : Nat)
  /-- Pointers have another size than four or eight bytes. -/
  | unsupportedPointerSize (size : UInt8)
  /-- The number of functions is negative. -/
  | negativeFunctionCount (count : Int64)
  /-- The number of functions is no word of this machine. -/
  | functionCountOverflow (count : Int64)
  /-- A part starts or ends outside the region. -/
  | offsetOutOfBounds (table : TableKind) (offset size : Nat)
  /-- The region ends before a record does. -/
  | truncatedTable (index count : Nat)
  /-- A name starts outside the name table. -/
  | invalidNameOffset (offset : Int32) (tableSize : Nat)
  /-- A name runs to the end of the name table. -/
  | unterminatedName (offset : Nat)
  /-- A name is not UTF-8. -/
  | invalidNameEncoding (offset : Nat)
  /-- A record starts before the one in front of it. -/
  | unorderedTable (index : Nat)
  /-- A read failed. -/
  | region (failure : RegionError)
deriving DecidableEq, Repr

namespace LayoutError

/-- The text of a failure. -/
def message : LayoutError → String
  | invalidMagic found expected =>
    s!"Invalid magic 0x{Numeral.hex 8 found.toNat}, expected 0x{Numeral.hex 8 expected.toNat}"
  | truncatedHeader needed available =>
    s!"Header truncated: need {needed} bytes, blob holds {available}"
  | unsupportedPointerSize size => s!"Unsupported pointer size: {size}"
  | negativeFunctionCount count => s!"Negative function count: {count}"
  | functionCountOverflow count => s!"Function count {count} exceeds the host address space"
  | offsetOutOfBounds table offset size =>
    s!"{table.name} offset 0x{Numeral.hex 1 offset} outside blob of {size} bytes"
  | truncatedTable index count => s!"Function table truncated at record {index} of {count}"
  | invalidNameOffset offset tableSize =>
    s!"Name offset {offset} outside name table of {tableSize} bytes"
  | unterminatedName offset =>
    s!"Name at offset 0x{Numeral.hex 1 offset} has no terminator before the end of the name table"
  | invalidNameEncoding offset => s!"Name at offset 0x{Numeral.hex 1 offset} is not valid UTF-8"
  | unorderedTable index => s!"Function table out of order at record {index}"
  | region failure => s!"Memory error: {failure.message}"

/-- Whether the bytes themselves are at fault, so that reading them again would not help. -/
def isIncompatible : LayoutError → Bool
  | region (.io _) => false
  | _ => true

/-- The outcome of a read from an image's region. -/
def ofRead {α : Type} (x : Except RegionError α) : Outcome LayoutError α :=
  .ofExcept (x.mapError region)

/-- A read that gives a value is a decoding that gives it. -/
@[simp] theorem ofRead_ok {α : Type} (a : α) : ofRead (.ok a) = .ok a := rfl

/-- A read that fails is a decoding that fails with that failure inside its own. -/
@[simp] theorem ofRead_error {α : Type} (e : RegionError) :
    (ofRead (.error e) : Outcome LayoutError α) = .error (.region e) := rfl

end LayoutError

end FuncMeta
