import FuncMeta.Image.Record

/-!
# Walking and searching the function table

A cursor yields the records one at a time. A record that cannot be read ends the walk: the failure
is yielded once, and nothing after it.

A function runs from its entry to the next record's entry. The search by address takes the table to
be sorted and halves the span of candidates until the last record whose entry does not lie above the
address is left.
-/

namespace FuncMeta

/-- A place in a walk along the function table. -/
structure Cursor where
  /-- The image whose table is walked. -/
  image : Image
  /-- The index of the next record. -/
  index : Nat
  /-- Whether a record could not be read. -/
  failed : Bool
deriving DecidableEq

namespace Cursor

/-- The cursor before the first record. -/
def start (t : Image) : Cursor where
  image := t
  index := 0
  failed := false

/-- The next record, nothing at the end of the walk, or a failure; and the place after it. -/
def next (c : Cursor) : Outcome LayoutError (Option Record) × Cursor :=
  if c.failed ∨ c.image.count ≤ c.index then (.ok none, c)
  else
    match c.image.record c.index c.image.count,
      (Word.fit (c.index + 1) : Outcome LayoutError Nat) with
    | .ok record, .ok index => (.ok (some record), { c with index })
    | .error e, _ => (.error e, { c with failed := true })
    | _, _ => (.halt, c)

/-- Bounds on the number of records that are still to come. -/
def sizeHint {ε : Type} (c : Cursor) : Outcome ε (Nat × Nat) :=
  if c.failed then .ok (0, 0)
  else (fun upper ↦ (0, upper)) <$> Word.sub c.image.count c.index

end Cursor

/-- A record together with the code that its function covers. -/
structure Slot where
  /-- The place of the record in the table. -/
  index : Nat
  /-- The record. -/
  record : Record
  /-- The addresses of the function's code. -/
  range : AddressRange
deriving DecidableEq, Repr

namespace Image

/-- Halves the span from `lo` to `hi`: below the answer the entries met do not lie above `pc`, and
from the answer on they do. -/
def upperBound (t : Image) (pc : Address) (lo hi : Nat) : Outcome LayoutError Nat :=
  if lo < hi then do
    let mid := lo + (hi - lo) / 2
    let probe ← Word.fit mid
    let record ← t.record probe t.count
    if record.entry ≤ pc then do
      let _ ← Word.fit (mid + 1)
      t.upperBound pc (mid + 1) hi
    else t.upperBound pc lo mid
  else .ok lo
termination_by hi - lo

/-- The function whose code contains an address, if there is one. -/
def find? (t : Image) (pc : Address) : Outcome LayoutError (Option Slot) :=
  if t.count = 0 then .ok none
  else do
    let first ← t.record 0 t.count
    let endOfText ← t.endOfText
    if pc < first.entry ∨ endOfText ≤ pc then return none
    else do
      let bound ← t.upperBound pc 0 t.count
      let index := bound - 1
      let record ← t.record index t.count
      let next ← Word.fit (index + 1)
      let stop ← if next = t.count then pure endOfText else Record.entry <$> t.record next t.count
      match (AddressRange.ofBounds? record.entry stop).filter (·.contains pc) with
      | some range => return some { index, record, range }
      | none => .error (.unorderedTable next)

end Image

end FuncMeta
