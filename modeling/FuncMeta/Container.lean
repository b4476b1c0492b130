import FuncMeta.Container.Elf
import FuncMeta.Container.MachO

/-!
# Executables as containers

The first bytes of a file tell the format. ELF and Mach-O files are searched for sections; an image
in a file of another format cannot be found by name, and of such a file nothing else is read.
-/

namespace FuncMeta

/-- What the first bytes of a file say about it. -/
inductive Container where
  /-- An ELF file. -/
  | elf
  /-- A Mach-O file with the byte order and the form that its magic declares. -/
  | machO (order : ByteOrder) (form : MachO.Form)
  /-- Several Mach-O files in one. -/
  | fat
  /-- A file that starts with code for an older system. -/
  | dos
  /-- Any other file. -/
  | other

namespace Container

/-- The number of bytes that every file has whose format can be told. -/
def leadSize : Nat := 16

/-- The format that the first bytes tell. A file that starts with code for an older system is known
by two of them, whatever it goes on with. -/
def ofLead : List UInt8 → Container
  | 0x7f :: 0x45 :: 0x4c :: 0x46 :: _ => elf
  | 0x4d :: 0x5a :: _ => dos
  | 0xfe :: 0xed :: 0xfa :: 0xce :: _ => machO .big MachO.narrow
  | 0xfe :: 0xed :: 0xfa :: 0xcf :: _ => machO .big MachO.wide
  | 0xce :: 0xfa :: 0xed :: 0xfe :: _ => machO .little MachO.narrow
  | 0xcf :: 0xfa :: 0xed :: 0xfe :: _ => machO .little MachO.wide
  | 0xca :: 0xfe :: 0xba :: 0xbe :: _ => fat
  | _ => other

end Container

namespace Region

/-- The named sections of the executable that a region holds. Of formats other than ELF and Mach-O
only the first bytes are read. So every file that starts with code for an older system counts as
malformed, where a reader of that format calls only a damaged one malformed and refuses any other as
not supported; and every archive or object file is refused as not supported, where a reader of those
calls a damaged one malformed. -/
def sections (r : Region) : Except RegionError (List Section) :=
  if r.size < Container.leadSize then
    .error (Malformation.toRegionError (.tooShort r.size))
  else
    match Container.ofLead (r.take Container.leadSize).toList with
    | .elf => (Elf.sections r).mapError Malformation.toRegionError
    | .machO order form => (MachO.sections order form r).mapError Malformation.toRegionError
    | .dos => .error (Malformation.toRegionError .unreadFormat)
    | .fat => .error (.notSupported "Fat binaries not supported")
    | .other =>
      .error (.notSupported "Only ELF and Mach-O images carry a separate metadata section")

/-- The section of an executable that carries the first of the wanted names that any carries. -/
def findSection (r : Region) (wanted : List String) : Except RegionError Section := do
  Section.select (← r.sections) wanted

end Region

end FuncMeta
