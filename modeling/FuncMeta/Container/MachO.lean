import FuncMeta.Container.Field
import FuncMeta.Blob

/-!
# Mach-O files

A Mach-O file starts with a magic that declares the width of its addresses and its byte order.
Commands follow the file header, each with its own size. Segment commands, of either width, are
followed by the headers of their sections, whose form is that of the file.
-/

namespace FuncMeta.MachO

/-- Where the fields of a section header stand, and what precedes the first one. -/
structure Form where
  /-- The number of bytes of the file header. -/
  headerSize : Nat
  /-- The number of bytes from the start of a segment command to its first section header. -/
  sectionsStart : Nat
  /-- The number of bytes of a section header. -/
  entrySize : Nat
  /-- Of a section header: where the section is mapped. -/
  address : Field
  /-- Of a section header: the number of bytes of the section. -/
  size : Field
  /-- Of a section header: where the section starts in the file. -/
  start : Field

/-- The form of a file with addresses of four bytes. -/
def narrow : Form where
  headerSize := 28
  sectionsStart := 56
  entrySize := 68
  address := ⟨32, 4⟩
  size := ⟨36, 4⟩
  start := ⟨40, 4⟩

/-- The form of a file with addresses of eight bytes. -/
def wide : Form where
  headerSize := 32
  sectionsStart := 72
  entrySize := 80
  address := ⟨32, 8⟩
  size := ⟨40, 8⟩
  start := ⟨48, 4⟩

/-- Where the fields of a segment command stand. -/
structure SegmentForm where
  /-- The number of bytes of the command. -/
  size : Nat
  /-- Where the segment starts in the file. -/
  fileStart : Field
  /-- The number of bytes of the segment in the file. -/
  fileSize : Field
  /-- The number of sections. -/
  sectionCount : Field

/-- The form of a segment command, if the kind of the command is one. -/
def SegmentForm.of? (kind : Nat) : Option SegmentForm :=
  if kind = 0x1 then
    some { size := 56, fileStart := ⟨32, 4⟩, fileSize := ⟨36, 4⟩, sectionCount := ⟨48, 4⟩ }
  else if kind = 0x19 then
    some { size := 72, fileStart := ⟨40, 8⟩, fileSize := ⟨48, 8⟩, sectionCount := ⟨64, 4⟩ }
  else none

/-- The number of bytes of a section's name. -/
def nameSize : Nat := 16

/-- A file and how to read it. -/
structure File where
  /-- The bytes. -/
  region : Region
  /-- The order of the bytes in a word. -/
  order : ByteOrder
  /-- Where the fields stand. -/
  form : Form

namespace File

/-- The name in the first bytes of a section header: zeros at its end do not belong to it, and what
is not text is an empty name. -/
def nameAt (f : File) (offset : Nat) : String :=
  let padded := (String.fromUTF8? (f.region.extract offset (offset + nameSize)).bytes).getD ""
  String.ofList (padded.toList.reverse.dropWhile (· = '\x00')).reverse

/-- The section whose header starts at an offset, if all of the header lies in the file. -/
def section? (f : File) (offset : Nat) : Option Section := do
  if f.region.size < offset + f.form.entrySize then none
  else
    let word := f.region.field? f.order offset
    let address ← word f.form.address
    let size ← word f.form.size
    let start ← word f.form.start
    return {
      name := f.nameAt offset
      fileOffset := .ofNat start
      size := .ofNat size
      address := .ofNat address }

/-- Up to `remaining` sections whose headers stand one behind the other. The first header that does
not lie in the file ends them. -/
def sectionsFrom (f : File) : (remaining offset : Nat) → List Section
  | 0, _ => []
  | remaining + 1, offset =>
    match f.section? offset with
    | some found => found :: f.sectionsFrom remaining (offset + f.form.entrySize)
    | none => []

/-- The sections of the segment command at an offset. The bytes of the segment have to lie in the
file. -/
def segment (f : File) (form : SegmentForm) (offset : Nat) :
    Except Malformation (List Section) := do
  let word := f.region.fieldOf f.order "segment command" offset
  if f.region.size < offset + form.size then .error (.truncated "segment command")
  else do
    let fileStart ← word form.fileStart
    let fileSize ← word form.fileSize
    let count ← word form.sectionCount
    if fileSize ≠ 0 ∧ f.region.size < fileStart + fileSize then .error (.outside "segment")
    else return f.sectionsFrom count (offset + f.form.sectionsStart)

/-- The sections of `remaining` commands that stand one behind the other. -/
def commandsFrom (f : File) : (remaining offset : Nat) → Except Malformation (List Section)
  | 0, _ => .ok []
  | remaining + 1, offset => do
    let kind ← f.region.fieldOf f.order "command" offset ⟨0, 4⟩
    let size ← f.region.fieldOf f.order "command" offset ⟨4, 4⟩
    if f.region.size < offset + size then .error (.truncated "command")
    else do
      let found ←
        match SegmentForm.of? kind with
        | some form => f.segment form offset
        | none => pure []
      let others ← f.commandsFrom remaining (offset + size)
      return found ++ others

end File

/-- The sections of a file in the order of their headers. A command takes eight bytes at least, so
there are no more commands than the bytes announced for them have room for. -/
def sections (order : ByteOrder) (form : Form) (r : Region) :
    Except Malformation (List Section) := do
  if r.size < form.headerSize then .error (.truncated "file header")
  else do
    let count ← r.fieldOf order "file header" 0 ⟨16, 4⟩
    let size ← r.fieldOf order "file header" 0 ⟨20, 4⟩
    if size / 8 < count ∨ r.size < size then .error (.tooMany "command")
    else File.commandsFrom { region := r, order, form } count form.headerSize

end FuncMeta.MachO
