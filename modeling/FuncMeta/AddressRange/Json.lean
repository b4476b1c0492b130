import FuncMeta.Address
import FuncMeta.Json.Read

/-!
# Reading address ranges

A range is read from its two bounds. They need not be in order.
-/

namespace FuncMeta.AddressRange

/-- A range of which perhaps not all is known. -/
structure Draft where
  /-- The start. -/
  start : Option Address := none
  /-- The stop. -/
  stop : Option Address := none
deriving DecidableEq, Repr

/-- The bounds, in the order in which a list gives them. -/
def fields : List (Json.Field Draft) :=
  [{ name := "start"
     isSet := fun d ↦ d.start.isSome
     read := fun cs ↦ (Json.readWord cs).map fun (w, rest) ↦
      (fun d ↦ { d with start := some ⟨w⟩ }, rest) },
   { name := "end"
     isSet := fun d ↦ d.stop.isSome
     read := fun cs ↦ (Json.readWord cs).map fun (w, rest) ↦
      (fun d ↦ { d with stop := some ⟨w⟩ }, rest) }]

/-- A range, both bounds of which have to be given. -/
def read : Json.Reader AddressRange := fun cs ↦ do
  let (draft, rest) ← Json.readRecord fields {} cs
  match draft.start, draft.stop with
  | some start, some stop => return ({ start, stop }, rest)
  | _, _ => .error .mismatch

/-- The range that a JSON text holds. -/
def ofJson (text : String) : Except Json.Fault AddressRange := Json.readAll read text

end FuncMeta.AddressRange
