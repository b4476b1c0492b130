import FuncMeta.Image.Record

/-!
# Auditing an image

The magic alone does not show that every part of an image follows the layout. An audit reads all
records, compares each with its neighbour and with its descriptor, decodes each name, and compares
the end of the last function with its entry. A table that cannot be read to its end fails the
audit; all other defects become issues, in the order of the records.
-/

namespace FuncMeta

/-- A defect of an image. -/
inductive Issue where
  /-- A record's entry lies below the one in front of it. -/
  | unordered (index : Nat) (previous entry : Address)
  /-- A record and its descriptor give different entries. -/
  | entryMismatch (index : Nat) (table descriptor : Address)
  /-- A record's descriptor cannot be decoded. -/
  | badDescriptor (index : Nat) (reason : String)
  /-- A record's name cannot be decoded. -/
  | badName (index : Nat) (reason : String)
  /-- The record after the last function cannot be read. -/
  | missingSentinel (reason : String)
  /-- The last function ends below its entry. -/
  | sentinelBeforeLastEntry (sentinel last : Address)
deriving DecidableEq, Repr

namespace Issue

/-- The text of an issue. -/
def message : Issue → String
  | unordered index previous entry =>
    s!"record {index} entry {entry} precedes previous entry {previous}"
  | entryMismatch index table descriptor =>
    s!"record {index} table entry {table} differs from descriptor entry {descriptor}"
  | badDescriptor index reason => s!"record {index} descriptor unreadable: {reason}"
  | badName index reason => s!"record {index} name unreadable: {reason}"
  | missingSentinel reason => s!"end-of-text record unreadable: {reason}"
  | sentinelBeforeLastEntry sentinel last =>
    s!"end of text {sentinel} precedes last entry {last}"

end Issue

/-- What an audit found. -/
structure Audit where
  /-- The header of the image. -/
  header : Header
  /-- The number of records read. -/
  checked : Nat
  /-- The defects found. -/
  issues : List Issue
deriving DecidableEq, Repr

/-- Whether no defect was found. -/
def Audit.isClean (a : Audit) : Bool := a.issues.isEmpty

namespace Image

/-- The defect of a record whose entry lies below the one in front of it. -/
def orderIssues (index : Nat) (previous : Option Address) (entry : Address) : List Issue :=
  match previous with
  | some before => if entry < before then [.unordered index before entry] else []
  | none => []

/-- The defect of a record whose descriptor gives another entry or cannot be decoded. -/
def descriptorIssues (t : Image) (index : Nat) (record : Record) :
    Outcome LayoutError (List Issue) :=
  match t.descriptor record.metadataOffset with
  | .ok d =>
    .ok (if d.entry = record.entry then [] else [.entryMismatch index record.entry d.entry])
  | .error e => .ok [.badDescriptor index e.message]
  | .halt => .halt

/-- The defect of a record whose name cannot be decoded. -/
def nameIssues (t : Image) (index : Nat) (record : Record) : Outcome LayoutError (List Issue) :=
  match t.name record.metadataOffset with
  | .ok _ => .ok []
  | .error e => .ok [.badName index e.message]
  | .halt => .halt

/-- The defects of some records, the first of which has the given index and stands after one with
the given entry. -/
def issuesFrom (t : Image) (index : Nat) (previous : Option Address) :
    List Record → Outcome LayoutError (List Issue)
  | [] => .ok []
  | record :: rest => do
    let ofDescriptor ← t.descriptorIssues index record
    let ofName ← t.nameIssues index record
    let later ← t.issuesFrom (index + 1) (some record.entry) rest
    return orderIssues index previous record.entry ++ ofDescriptor ++ ofName ++ later

/-- The defect of the record after the last function, whose entry is given if there is one. -/
def sentinelIssues (t : Image) (last : Option Address) : Outcome LayoutError (List Issue) :=
  match t.endOfText with
  | .ok sentinel =>
    match last with
    | some entry =>
      .ok (if sentinel < entry then [.sentinelBeforeLastEntry sentinel entry] else [])
    | none => .ok []
  | .error e => .ok [.missingSentinel e.message]
  | .halt => .halt

/-- All records of the function table. -/
def allRecords (t : Image) : Outcome LayoutError (List Record) := do
  let (records, ending) := t.records
  ending
  return records

/-- Reads all of an image and lists its defects. -/
def audit (t : Image) : Outcome LayoutError Audit := do
  let records ← t.allRecords
  let issues ← t.issuesFrom 0 none records
  let ofSentinel ← t.sentinelIssues (records.getLast?.map Record.entry)
  return { header := t.header, checked := records.length, issues := issues ++ ofSentinel }

end Image

/-- Audits the image that a region holds. -/
def Region.audit (r : Region) : Outcome LayoutError Audit := do
  let t ← Outcome.ofExcept (Image.ofRegion r)
  t.audit

end FuncMeta
