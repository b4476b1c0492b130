import FuncMeta.Image.Cursor

/-!
# Symbols

A symbol is the name of a function and the address of its code; a span adds the addresses that the
code covers. A name resolves to the entry of the first record that carries it. Records are read in
order, and the first one that cannot be read ends the search, unless the name was found before.
Listing reads all records; looking an address up searches the sorted table.
-/

namespace FuncMeta

/-- The name of a function and where its code starts. -/
structure Symbol where
  /-- The name. -/
  name : String
  /-- Where the code starts. -/
  address : Address
deriving DecidableEq, Repr

instance : ToString Symbol where toString s := s!"{s.name} @ {s.address}"

/-- A function found by an address in its code. -/
structure Span where
  /-- The function. -/
  symbol : Symbol
  /-- The addresses of its code. -/
  range : AddressRange
deriving DecidableEq, Repr

namespace Span

/-- The distance of an address from the start of the span, zero for an address below it. -/
def offsetOf (s : Span) (pc : Address) : Nat := ((pc.sub? s.range.start).getD 0).toNat

/-- An address as the name of the function and, unless it is zero, the distance from its start. -/
def locate (s : Span) (pc : Address) : String :=
  if s.offsetOf pc = 0 then s.symbol.name
  else s!"{s.symbol.name}+0x{Numeral.hex 1 (s.offsetOf pc)}"

end Span

/-- Why an address cannot be called. -/
inductive CallableError where
  /-- No code lies at the null address. -/
  | nullAddress
  /-- The address does not fit a pointer of this machine. -/
  | addressOverflow (address : Address)
  /-- What is to be called is not a code pointer. -/
  | notPointerSized (size : Nat)
deriving DecidableEq, Repr

namespace CallableError

/-- The text of a failure. -/
def message : CallableError → String
  | nullAddress => "Refusing to synthesize a callable for the null address"
  | addressOverflow address => s!"Address {address} does not fit in a host pointer"
  | notPointerSized size => s!"Target type is {size} bytes, not a host code pointer"

end CallableError

/-- The code pointer at an address. Every address but null has one. -/
def Address.callable (a : Address) : Except CallableError Address :=
  if a.isNull then .error .nullAddress else .ok a

/-- Why a symbol could not be had. -/
inductive SymbolError where
  /-- No function has this name. -/
  | notFound (name : String)
  /-- The image could not be decoded as far as needed. -/
  | layout (failure : LayoutError)
  /-- The function cannot be called. -/
  | callable (failure : CallableError)
deriving DecidableEq, Repr

namespace SymbolError

/-- The text of a failure. -/
def message : SymbolError → String
  | notFound name => s!"Symbol not found: {name}"
  | layout failure => s!"Incompatible metadata layout: {failure.message}"
  | callable failure => s!"Cannot synthesize callable: {failure.message}"

/-- Whether only the name is missing, so that another one may do. -/
def isNotFound : SymbolError → Bool
  | notFound _ => true
  | _ => false

end SymbolError

namespace Image

/-- The symbol of a record. -/
def symbol (t : Image) (record : Record) : Outcome LayoutError Symbol := do
  let name ← t.name record.metadataOffset
  return { name, address := record.entry }

/-- The entry of the first of some records that carries a name. The given ending of the table
counts if none does. -/
def resolveAmong (t : Image) (name : String) (ending : Outcome LayoutError Unit) :
    List Record → Outcome SymbolError Address
  | [] => do
    ending.mapError .layout
    .error (.notFound name)
  | record :: rest => do
    let candidate ← (t.name record.metadataOffset).mapError .layout
    if candidate = name then return record.entry else t.resolveAmong name ending rest

/-- The entry of the first function with a name. -/
def resolve (t : Image) (name : String) : Outcome SymbolError Address :=
  t.resolveAmong name t.records.2 t.records.1

/-- The number of bytes that a listed symbol takes. -/
def symbolSize : Nat := 32

/-- All symbols in the order of their records. -/
def symbols (t : Image) : Outcome LayoutError (List Symbol) := do
  Word.reserve t.count symbolSize
  let listed ← t.records.1.mapM t.symbol
  t.records.2
  return listed

/-- The function whose code contains an address, if there is one. -/
def functionAt (t : Image) (pc : Address) : Outcome LayoutError (Option Span) := do
  match ← t.find? pc with
  | none => return none
  | some slot =>
    let symbol ← t.symbol slot.record
    return some { symbol, range := slot.range }

/-- The symbols of some records up to the first one that cannot be decoded, and how reading them
ends: with that failure, or else as given. -/
def walkAmong (t : Image) (ending : Outcome LayoutError Unit) :
    List Record → List Symbol × Outcome LayoutError Unit
  | [] => ([], ending)
  | record :: rest =>
    match t.symbol record with
    | .ok symbol =>
      let later := t.walkAmong ending rest
      (symbol :: later.1, later.2)
    | .error e => ([], .error e)
    | .halt => ([], .halt)

/-- The symbols of the records from the first one on, and how the walk ends. -/
def walk (t : Image) : List Symbol × Outcome LayoutError Unit :=
  t.walkAmong t.records.2 t.records.1

end Image

namespace Region

/-- Asks the image that a region holds. -/
def ask {α : Type} (r : Region) (query : Image → Outcome SymbolError α) : Outcome SymbolError α :=
  match Image.ofRegion r with
  | .ok t => query t
  | .error e => .error (.layout e)

/-- The entry of the first function with a name. -/
def resolve (r : Region) (name : String) : Outcome SymbolError Address :=
  r.ask fun t ↦ t.resolve name

/-- The first function with a name. -/
def resolveSymbol (r : Region) (name : String) : Outcome SymbolError Symbol :=
  (fun address ↦ { name, address }) <$> r.resolve name

/-- All symbols in the order of their records. -/
def symbols (r : Region) : Outcome SymbolError (List Symbol) :=
  r.ask fun t ↦ t.symbols.mapError .layout

/-- The function whose code contains an address, if there is one. -/
def functionAt (r : Region) (pc : Address) : Outcome SymbolError (Option Span) :=
  r.ask fun t ↦ (t.functionAt pc).mapError .layout

/-- The code pointer of the first function with a name. -/
def callable (r : Region) (name : String) : Outcome SymbolError Address := do
  let address ← r.resolve name
  .ofExcept (address.callable.mapError .callable)

end Region

end FuncMeta
