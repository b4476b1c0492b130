import FuncMeta.Image.Audit
import FuncMeta.Log
import FuncMeta.Symbol.Index
import FuncMeta.Symbol

/-!
# Narrating queries

What the queries of an image tell on their way: the header, every record that a search by name
reads, the names that occur again, and the defects that an audit finds.
-/

namespace FuncMeta

/-- A header that was decoded. -/
def Header.narration (h : Header) : LogRecord where
  level := .trace
  text := s!"Decoded header: {h.functionCount} functions, {h.fileCount} files, " ++
    s!"pointer size {h.pointerSize}"

/-- The header of the image that a region holds, if it can be decoded. -/
def Region.headerNarration (r : Region) : List LogRecord :=
  match Header.decode r with
  | .ok h => [h.narration]
  | .error _ => []

/-- A record that a search reads. -/
def Symbol.narration (s : Symbol) (index : Nat) : LogRecord where
  level := .trace
  text := s!"record {index}: {s}"

/-- The records that a search by name reads, and how it ends. The first of the given symbols has the
given index. -/
def Image.searchNarration (t : Image) (name : String) (ending : Outcome LayoutError Unit) :
    (index : Nat) → List Symbol → List LogRecord
  | _, [] =>
    match ending with
    | .ok () => [{ level := .debug, text := s!"{name} not found among {t.count} functions" }]
    | _ => []
  | index, symbol :: rest =>
    if symbol.name = name then
      [symbol.narration index,
        { level := .debug, text := s!"Resolved {name} to {symbol.address} at record {index}" }]
    else symbol.narration index :: t.searchNarration name ending (index + 1) rest

/-- What resolving a name tells. -/
def Region.resolveNarration (r : Region) (name : String) : List LogRecord :=
  match Image.ofRegion r with
  | .ok t => r.headerNarration ++ t.searchNarration name t.walk.2 0 t.walk.1
  | .error _ => []

/-- The names that occur again among the given symbols, and the index of all of them if the walk
does not fail. -/
def SymbolIndex.narration (x : SymbolIndex) (ending : Outcome LayoutError Unit) :
    List Symbol → List LogRecord
  | [] =>
    match ending with
    | .ok () =>
      [{ level := .debug, text := s!"Indexed {x.size} functions ({x.duplicates} duplicates)" }]
    | _ => []
  | symbol :: rest =>
    let later := (x.insert symbol).narration ending rest
    if symbol.name ∈ x.entries then
      { level := .warn
        text := s!"Duplicate function name {symbol.name} at {symbol.address}, keeping first" } ::
        later
    else later

/-- What indexing the functions tells. Nothing is read if there is no room for the index. -/
def Region.indexNarration (r : Region) : List LogRecord :=
  match Image.ofRegion r with
  | .ok t =>
    if t.count ≤ SymbolIndex.maxReserved then
      r.headerNarration ++ SymbolIndex.empty.narration t.walk.2 t.walk.1
    else r.headerNarration
  | .error _ => []

/-- The defects that an audit finds. -/
def Audit.narration (a : Audit) : List LogRecord :=
  a.issues.map fun issue ↦ { level := .warn, text := s!"Layout issue: {issue.message}" }

/-- What auditing an image tells. -/
def Region.auditNarration (r : Region) : List LogRecord :=
  match r.audit with
  | .ok a => r.headerNarration ++ a.narration
  | _ => r.headerNarration

end FuncMeta
