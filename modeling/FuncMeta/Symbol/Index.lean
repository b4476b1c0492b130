import FuncMeta.Symbol
import Std.Data.HashMap

/-!
# Indexing symbols

An index answers many names after one pass over the table. It keeps the first entry of each name
and counts the records whose name had occurred before.
-/

namespace FuncMeta

/-- The entries of the functions by name. -/
structure SymbolIndex where
  /-- The first entry of each name. -/
  entries : Std.HashMap String Address
  /-- The number of records whose name had occurred before. -/
  duplicates : Nat

namespace SymbolIndex

/-- The index without names. -/
def empty : SymbolIndex where
  entries := ∅
  duplicates := 0

/-- Adds a symbol. Of symbols with one name the first is kept. -/
def insert (x : SymbolIndex) (s : Symbol) : SymbolIndex :=
  if s.name ∈ x.entries then { x with duplicates := x.duplicates + 1 }
  else { x with entries := x.entries.insert s.name s.address }

/-- The entry of a name. -/
def get? (x : SymbolIndex) (name : String) : Option Address := x.entries[name]?

/-- The entry of a name, which has to be in the index. -/
def resolve (x : SymbolIndex) (name : String) : Except SymbolError Address :=
  match x.get? name with
  | some address => .ok address
  | none => .error (.notFound name)

/-- The number of names. -/
def size (x : SymbolIndex) : Nat := x.entries.size

/-- Whether there is no name. -/
def isEmpty (x : SymbolIndex) : Bool := x.entries.isEmpty

/-- The names, in no particular order. -/
def names (x : SymbolIndex) : List String := x.entries.keys

/-- The number of names that room can be made for: seven eighths of the slots of the largest
table. -/
def maxReserved : Nat := 7 * 0x40000000000000

/-- Makes room for `count` names; the machine halts if no table is that large. That the system may
refuse memory for a smaller table is left out. -/
def reserve {ε : Type} (count : Nat) : Outcome ε Unit :=
  if count ≤ maxReserved then .ok () else .halt

end SymbolIndex

namespace Image

/-- Adds the symbols of some records to an index. The first one that cannot be decoded ends it. -/
def indexAmong (t : Image) (x : SymbolIndex) : List Record → Outcome LayoutError SymbolIndex
  | [] => .ok x
  | record :: rest => do
    let symbol ← t.symbol record
    t.indexAmong (x.insert symbol) rest

/-- The index of all functions. -/
def index (t : Image) : Outcome LayoutError SymbolIndex := do
  SymbolIndex.reserve t.count
  let x ← t.indexAmong .empty t.records.1
  t.records.2
  return x

end Image

/-- The index of all functions of the image that a region holds. -/
def Region.index (r : Region) : Outcome SymbolError SymbolIndex :=
  r.ask fun t ↦ t.index.mapError .layout

end FuncMeta
