import FuncMeta.Report

/-!
# Reports as text

Addresses have a least number of digits and names a greatest number of characters; both are part of
the layout. A long name keeps its start and ends in three dots.
-/

namespace FuncMeta

/-- How reports are laid out as text. -/
structure TextLayout where
  /-- The least number of digits of an address. -/
  addressWidth : Nat := 16
  /-- The greatest number of characters of a listed name. -/
  nameWidth : Nat := 60
deriving DecidableEq, Repr

namespace TextLayout

/-- The layout with another greatest number of characters of a name, four at least. -/
def withNameWidth (l : TextLayout) (width : Nat) : TextLayout := { l with nameWidth := max width 4 }

/-- An address. -/
def address (l : TextLayout) (a : Address) : String := a.render l.addressWidth

/-- A name, cut to the greatest number of characters. -/
def name (l : TextLayout) (s : String) : String :=
  if s.length ≤ l.nameWidth then s
  else String.ofList (s.toList.take (l.nameWidth - 3)) ++ "..."

/-- The file and the range of an image. The machine halts on a range without a size. -/
def source {ε : Type} (l : TextLayout) (s : Source) : Outcome ε String := do
  let size ← s.range.size
  let origin := s.sectionName.getD "raw"
  return s!"{s.path} [{origin}] {l.address s.range.start} ({size} bytes)"

/-- The place of a table. -/
def tableSpan (s : TableSpan) : String :=
  let label := String.ofList (s.kind.name.toList.rightpad 24 ' ')
  s!"{label} 0x{Numeral.hex 8 s.start}..0x{Numeral.hex 8 s.stop}"

/-- The lines of a header. -/
def header (r : HeaderReport) : List String :=
  [s!"magic            0x{Numeral.hex 8 r.header.magic.toNat}",
    s!"pointer size     {r.header.pointerSize}",
    s!"min instruction  {r.header.minInstructionSize}",
    s!"functions        {r.header.functionCount}",
    s!"files            {r.header.fileCount}"] ++ r.tables.map tableSpan

/-- A listed function. -/
def symbol (l : TextLayout) (s : Symbol) : String := s!"{l.address s.address}  {l.name s.name}"

/-- What became of a name. -/
def resolution (l : TextLayout) (r : Resolution) : String :=
  match r.address, r.failure with
  | some a, _ => s!"{l.address a}  {r.name}"
  | none, some failure => s!"{r.name}  {failure}"
  | none, none => r.name

/-- The lines of a list of functions. -/
def list (l : TextLayout) (r : ListReport) : List String := r.symbols.map l.symbol

/-- The function at an address. -/
def lookup (l : TextLayout) (r : LookupReport) : String :=
  match r.function, r.location with
  | some span, some location =>
    s!"{l.address r.pc}  {location}  [{l.address span.range.start} - " ++
      s!"{l.address span.range.stop})"
  | _, _ => s!"{l.address r.pc}  <no function>"

end TextLayout

end FuncMeta
