import FuncMeta.Json
import FuncMeta.Report

/-!
# Reports as JSON

Every report is an object with its fields in a fixed order. Addresses are numbers.
-/

namespace FuncMeta

/-- An address is a number. -/
def Address.toJson (a : Address) : Json := .nat a.toNat

/-- A range has its two bounds. -/
def AddressRange.toJson (r : AddressRange) : Json :=
  .object [("start", r.start.toJson), ("end", r.stop.toJson)]

/-- A symbol has a name and an address. -/
def Symbol.toJson (s : Symbol) : Json :=
  .object [("name", .text s.name), ("address", s.address.toJson)]

/-- A span has a symbol and a range. -/
def Span.toJson (s : Span) : Json :=
  .object [("symbol", s.symbol.toJson), ("range", s.range.toJson)]

/-- A header has its fields in the order of the image. -/
def Header.toJson (h : Header) : Json :=
  .object [
    ("magic", .nat h.magic.toNat),
    ("min_instruction_size", .nat h.minInstructionSize.toNat),
    ("pointer_size", .nat h.pointerSize.toNat),
    ("function_count", .nat h.functionCount.toNat),
    ("file_count", .nat h.fileCount.toNat),
    ("name_table_offset", .nat h.nameTableOffset.toNat),
    ("cu_table_offset", .nat h.cuTableOffset.toNat),
    ("file_table_offset", .nat h.fileTableOffset.toNat),
    ("pc_table_offset", .nat h.pcTableOffset.toNat),
    ("function_table_offset", .nat h.functionTableOffset.toNat)]

/-- An issue has its kind first. -/
def Issue.toJson : Issue → Json
  | unordered index previous entry =>
    .object [("kind", .text "unordered"), ("index", .nat index), ("previous", previous.toJson),
      ("entry", entry.toJson)]
  | entryMismatch index table descriptor =>
    .object [("kind", .text "entry_mismatch"), ("index", .nat index), ("table", table.toJson),
      ("descriptor", descriptor.toJson)]
  | badDescriptor index reason =>
    .object [("kind", .text "bad_descriptor"), ("index", .nat index), ("reason", .text reason)]
  | badName index reason =>
    .object [("kind", .text "bad_name"), ("index", .nat index), ("reason", .text reason)]
  | missingSentinel reason =>
    .object [("kind", .text "missing_sentinel"), ("reason", .text reason)]
  | sentinelBeforeLastEntry sentinel last =>
    .object [("kind", .text "sentinel_before_last_entry"), ("sentinel", sentinel.toJson),
      ("last", last.toJson)]

/-- An audit has the header, the number of records read and the issues. -/
def Audit.toJson (a : Audit) : Json :=
  .object [("header", a.header.toJson), ("checked", .nat a.checked),
    ("issues", .list (a.issues.map Issue.toJson))]

/-- A source has its section, or null. -/
def Source.toJson (s : Source) : Json :=
  .object [("path", .text s.path), ("section", .ofOption .text s.sectionName),
    ("range", s.range.toJson)]

/-- A table has its name and its bounds. -/
def TableSpan.toJson (s : TableSpan) : Json :=
  .object [("table", .text s.kind.name), ("offset", .nat s.start), ("end", .nat s.stop)]

/-- The report on a header. -/
def HeaderReport.toJson (r : HeaderReport) : Json :=
  .object [("input", r.source.toJson), ("header", r.header.toJson),
    ("tables", .list (r.tables.map TableSpan.toJson))]

/-- What became of a name; an address or a failure that is absent is null. -/
def Resolution.toJson (r : Resolution) : Json :=
  .object [("name", .text r.name), ("address", .ofOption Address.toJson r.address),
    ("error", .ofOption .text r.failure)]

/-- The report on several names. -/
def ResolveReport.toJson (r : ResolveReport) : Json :=
  .object [("input", r.source.toJson), ("results", .list (r.results.map Resolution.toJson))]

/-- The report on the functions of an image. -/
def ListReport.toJson (r : ListReport) : Json :=
  .object [("input", r.source.toJson), ("total", .nat r.total),
    ("symbols", .list (r.symbols.map Symbol.toJson))]

/-- The report on the function at an address. -/
def LookupReport.toJson (r : LookupReport) : Json :=
  .object [("input", r.source.toJson), ("pc", r.pc.toJson),
    ("function", .ofOption Span.toJson r.function), ("location", .ofOption .text r.location)]

/-- The report on an audit. -/
def AuditReport.toJson (r : AuditReport) : Json :=
  .object [("input", r.source.toJson), ("report", r.audit.toJson)]

end FuncMeta
