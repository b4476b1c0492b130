import FuncMeta.Container.Field
import FuncMeta.Blob

/-!
# ELF files

An ELF file declares the width of its addresses and its byte order in its first bytes. The file
header says where the section headers stand, one behind the other, and which of them describes the
table that holds the names. The first section header also holds the number of headers and the index
of the name table when these do not fit the file header.
-/

namespace FuncMeta.Elf

/-- Where the fields of the file header and of a section header stand. -/
structure Form where
  /-- The number of bytes of the file header. -/
  headerSize : Nat
  /-- The number of bytes of a section header. -/
  entrySize : Nat
  /-- Of the file header: where the section headers start. -/
  tableStart : Field
  /-- Of the file header: the number of section headers. -/
  tableCount : Field
  /-- Of the file header: the index of the section that holds the names. -/
  nameIndex : Field
  /-- Of a section header: where in the table the name starts. -/
  name : Field
  /-- Of a section header: what the section holds. -/
  kind : Field
  /-- Of a section header: where the section is mapped. -/
  address : Field
  /-- Of a section header: where the section starts in the file. -/
  start : Field
  /-- Of a section header: the number of bytes of the section. -/
  size : Field
  /-- Of a section header: the index of another section. -/
  link : Field

/-- The form of a file with addresses of four bytes. -/
def narrow : Form where
  headerSize := 52
  entrySize := 40
  tableStart := ⟨32, 4⟩
  tableCount := ⟨48, 2⟩
  nameIndex := ⟨50, 2⟩
  name := ⟨0, 4⟩
  kind := ⟨4, 4⟩
  address := ⟨12, 4⟩
  start := ⟨16, 4⟩
  size := ⟨20, 4⟩
  link := ⟨24, 4⟩

/-- The form of a file with addresses of eight bytes. -/
def wide : Form where
  headerSize := 64
  entrySize := 64
  tableStart := ⟨40, 8⟩
  tableCount := ⟨60, 2⟩
  nameIndex := ⟨62, 2⟩
  name := ⟨0, 4⟩
  kind := ⟨4, 4⟩
  address := ⟨16, 8⟩
  start := ⟨24, 8⟩
  size := ⟨32, 8⟩
  link := ⟨40, 4⟩

/-- A file and how to read it. -/
structure File where
  /-- The bytes. -/
  region : Region
  /-- The order of the bytes in a word. -/
  order : ByteOrder
  /-- Where the fields stand. -/
  form : Form

/-- A section header. -/
structure Entry where
  /-- Where in the table the name starts. -/
  name : Nat
  /-- What the section holds. -/
  kind : Nat
  /-- Where the section is mapped. -/
  address : Nat
  /-- Where the section starts in the file. -/
  start : Nat
  /-- The number of bytes of the section. -/
  size : Nat
  /-- The index of another section. -/
  link : Nat
deriving DecidableEq, Repr

/-- The form that the fifth byte of a file declares. -/
def formOf (value : UInt8) : Except Malformation Form :=
  if value = 1 then .ok narrow
  else if value = 2 then .ok wide
  else .error (.addressClass value)

/-- The byte order that the sixth byte of a file declares. -/
def orderOf (value : UInt8) : Except Malformation ByteOrder :=
  if value = 1 then .ok .little
  else if value = 2 then .ok .big
  else .error (.byteOrder value)

/-- A file whose header is complete. -/
def ofRegion (r : Region) : Except Malformation File := do
  let form ← formOf ((r.byte? 4).getD 0)
  let order ← orderOf ((r.byte? 5).getD 0)
  if r.size < form.headerSize then .error (.truncated "file header")
  else return { region := r, order, form }

namespace File

/-- A word of the file header. -/
def header (f : File) : Field → Except Malformation Nat :=
  f.region.fieldOf f.order "file header" 0

/-- The section header at an offset, all of which has to lie in the file. -/
def entry (f : File) (offset : Nat) : Except Malformation Entry := do
  let word := f.region.fieldOf f.order "section header" offset
  if f.region.size < offset + f.form.entrySize then .error (.truncated "section header")
  else return {
    name := ← word f.form.name
    kind := ← word f.form.kind
    address := ← word f.form.address
    start := ← word f.form.start
    size := ← word f.form.size
    link := ← word f.form.link }

/-- The section headers. If there are any, there is a first one, which describes no section but may
hold their number. -/
def entries (f : File) : Except Malformation (List Entry) := do
  let start ← f.header f.form.tableStart
  if start = 0 then return []
  else do
    let first ← f.entry start
    let declared ← f.header f.form.tableCount
    let count := if declared = 0 then first.size else declared
    if f.region.size / f.form.entrySize < count then .error (.tooMany "section header")
    else do
      let others ← (List.range (count - 1)).mapM fun i ↦
        f.entry (start + (i + 1) * f.form.entrySize)
      return first :: others

/-- The index that says that the first section header holds the index instead. -/
def indexElsewhere : Nat := 0xffff

/-- The section header of the name table, if there is one. -/
def nameEntry? (f : File) (entries : List Entry) : Except Malformation (Option Entry) := do
  let declared ← f.header f.form.nameIndex
  if declared = indexElsewhere then return entries.head?.bind fun first ↦ entries[first.link]?
  else return entries[declared]?

/-- The kind of a section without bytes in the file. -/
def kindWithoutBytes : Nat := 8

/-- Whether the addresses of a section with bytes in the file leave the address space. -/
def leavesAddresses (e : Entry) : Bool :=
  e.kind ≠ kindWithoutBytes ∧ e.size ≠ 0 ∧ Word.limit ≤ e.address + e.size

/-- The name table, empty if no section header describes it. All of it has to be text. -/
def nameTable (f : File) (entries : List Entry) : Except Malformation Region := do
  match ← f.nameEntry? entries with
  | none => return .empty
  | some e =>
    if leavesAddresses e then .error (.outside "name table")
    else
      match f.region.slice e.start e.size with
      | .error _ => .error (.outside "name table")
      | .ok table =>
        if (String.fromUTF8? table.bytes).isSome then .ok table else .error .namesNotText

end File

/-- The name that starts at an offset of a name table: the text up to the next zero or the end of
the table. Right behind the table a name starts only if no zero ends the last one. -/
def nameAt? (table : Region) (offset : Nat) : Option String :=
  let starts : Bool := offset < table.size ∨
    offset = table.size ∧ (table.byte? (offset - 1)).any (· ≠ 0)
  if starts then
    let stop := (table.zeroWithin? offset (table.size - offset)).getD table.size
    String.fromUTF8? (table.extract offset stop).bytes
  else none

/-- The section that a section header describes, if it has a name. -/
def Entry.section? (e : Entry) (table : Region) : Option Section :=
  (nameAt? table e.name).map fun name ↦
    { name
      fileOffset := .ofNat e.start
      size := .ofNat e.size
      address := .ofNat e.address }

/-- The sections of a file in the order of their headers. Those without a name are left out. -/
def sections (r : Region) : Except Malformation (List Section) := do
  let file ← ofRegion r
  let entries ← file.entries
  let table ← file.nameTable entries
  return entries.filterMap (·.section? table)

end FuncMeta.Elf
