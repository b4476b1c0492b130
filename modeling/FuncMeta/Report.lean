import FuncMeta.Image.Audit
import FuncMeta.Symbol

/-!
# Reports

What the program has to say about an input, before it becomes text or JSON.
-/

namespace FuncMeta

/-- Where the bytes of an image came from. -/
structure Source where
  /-- The file. -/
  path : String
  /-- The section of the executable, if the file is not the image itself. -/
  sectionName : Option String
  /-- The addresses that the bytes are mapped at. -/
  range : AddressRange
deriving DecidableEq, Repr

/-- The place of a table. -/
structure TableSpan where
  /-- The table. -/
  kind : TableKind
  /-- Where it starts. -/
  start : Nat
  /-- Where it ends. -/
  stop : Nat
deriving DecidableEq, Repr

/-- The places of the tables in a region of `regionSize` bytes, in declared order. -/
def Header.spans (h : Header) (regionSize : Nat) : List TableSpan :=
  h.tables.map fun (kind, start) ↦ { kind, start, stop := h.tableEnd kind regionSize }

/-- The header of an image and the places of its tables. -/
structure HeaderReport where
  /-- Where the image came from. -/
  source : Source
  /-- Its header. -/
  header : Header
  /-- The places of its tables. -/
  tables : List TableSpan
deriving DecidableEq, Repr

/-- The report on the header of an image of `regionSize` bytes. -/
def HeaderReport.of (source : Source) (header : Header) (regionSize : Nat) : HeaderReport where
  source := source
  header := header
  tables := header.spans regionSize

/-- What became of a name that was to be resolved. -/
structure Resolution where
  /-- The name. -/
  name : String
  /-- Its address, if it was resolved. -/
  address : Option Address
  /-- Why it was not resolved. -/
  failure : Option String
deriving DecidableEq, Repr

namespace Resolution

/-- What became of a name. -/
def of (name : String) : Except SymbolError Address → Resolution
  | .ok address => { name, address := some address, failure := none }
  | .error e => { name, address := none, failure := some e.message }

/-- Whether the name was resolved. -/
def isResolved (r : Resolution) : Bool := r.address.isSome

end Resolution

/-- What became of several names. -/
structure ResolveReport where
  /-- Where the image came from. -/
  source : Source
  /-- What became of each name, in the order asked. -/
  results : List Resolution
deriving DecidableEq, Repr

/-- The number of names that were not resolved. -/
def ResolveReport.unresolved (r : ResolveReport) : Nat :=
  (r.results.filter fun outcome ↦ !outcome.isResolved).length

/-- The functions of an image. -/
structure ListReport where
  /-- Where the image came from. -/
  source : Source
  /-- The number of functions, listed or not. -/
  total : Nat
  /-- The functions listed. -/
  symbols : List Symbol
deriving DecidableEq, Repr

/-- The function at an address. -/
structure LookupReport where
  /-- Where the image came from. -/
  source : Source
  /-- The address. -/
  pc : Address
  /-- The function, if one contains the address. -/
  function : Option Span
  /-- The address in terms of the function. -/
  location : Option String
deriving DecidableEq, Repr

/-- The report on the function at an address. -/
def LookupReport.of (source : Source) (pc : Address) (function : Option Span) : LookupReport where
  source := source
  pc := pc
  function := function
  location := function.map (·.locate pc)

/-- The audit of an image. -/
structure AuditReport where
  /-- Where the image came from. -/
  source : Source
  /-- What was found. -/
  audit : Audit
deriving DecidableEq, Repr

end FuncMeta
