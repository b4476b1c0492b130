import FuncMeta.Address
import FuncMeta.Region

/-!
# Blobs and the sections they are taken from

A blob is a region together with the address that its first byte is mapped at. The address is shown
in reports; no decoder reads it. A section is a named part of an executable, and its bytes are a
blob. Which of several wanted sections is taken depends on the order of the wanted names, and only
for one name on the order of the sections. Main statements: `select_eq_ok_iff` and
`select_eq_error_iff`.
-/

namespace FuncMeta

/-- Bytes and the address that the first of them is mapped at. -/
structure Blob where
  /-- The bytes. -/
  region : Region
  /-- The address of the first byte. -/
  base : Address
deriving DecidableEq

namespace Blob

/-- The addresses that the bytes are mapped at. -/
def range (b : Blob) : AddressRange := .ofStartSize b.base b.region.size

/-- The blob cut to its first `n` bytes. -/
def take (b : Blob) (n : Nat) : Blob := { b with region := b.region.take n }

/-- The blob in the text form of a record with its base and its size. -/
def describe (b : Blob) : String :=
  s!"MetadataBlob \x7b base: Address \x7b value: {b.base.toNat} \x7d, len: {b.region.size} \x7d"

end Blob

/-- A named part of an executable. -/
structure Section where
  /-- The name. -/
  name : String
  /-- Where its bytes start in the file. -/
  fileOffset : UInt64
  /-- The number of its bytes. -/
  size : UInt64
  /-- The address that its first byte is mapped at. -/
  address : Address
deriving DecidableEq, Repr

namespace Section

/-- The first section that carries the first of the wanted names that any section carries. -/
def select (sections : List Section) (wanted : List String) : Except RegionError Section :=
  match wanted.findSome? fun name ↦ sections.find? (·.name = name) with
  | some found => .ok found
  | none => .error (.sectionNotFound (", ".intercalate wanted))

/-- The bytes of a section, which have to lie in the file. -/
def blob (s : Section) (file : Region) : Except RegionError Blob :=
  (file.slice s.fileOffset.toNat s.size.toNat).map fun region ↦ { region, base := s.address }

/-- The section is the first one that carries the first of the wanted names that any carries. -/
structure IsSelected (sections : List Section) (wanted : List String) (s : Section) : Prop where
  first_name : ∃ before after, wanted = before ++ s.name :: after ∧
    ∀ name ∈ before, ∀ t ∈ sections, t.name ≠ name
  first_section : ∃ front back, sections = front ++ s :: back ∧ ∀ t ∈ front, t.name ≠ s.name

variable {sections : List Section} {wanted : List String} {name : String} {s : Section}
  {e : RegionError}

private theorem find?_eq_some_iff : sections.find? (·.name = name) = some s ↔ s.name = name ∧
    ∃ front back, sections = front ++ s :: back ∧ ∀ t ∈ front, t.name ≠ name := by
  simp only [List.find?_eq_some_iff_append, decide_eq_true_eq, Bool.not_eq_true',
    decide_eq_false_iff_not, ne_eq]

private theorem find?_eq_none_iff : sections.find? (·.name = name) = none ↔
    ∀ t ∈ sections, t.name ≠ name := by
  simp only [List.find?_eq_none, decide_eq_true_eq, ne_eq]

private theorem findSome?_eq_some_iff :
    (wanted.findSome? fun name ↦ sections.find? (·.name = name)) = some s ↔
      IsSelected sections wanted s := by
  simp only [List.findSome?_eq_some_iff, find?_eq_some_iff, find?_eq_none_iff]
  constructor
  · rintro ⟨before, _, after, rfl, ⟨rfl, hsection⟩, hbefore⟩
    exact ⟨⟨before, after, rfl, hbefore⟩, hsection⟩
  · rintro ⟨⟨before, after, rfl, hbefore⟩, hsection⟩
    exact ⟨before, s.name, after, rfl, ⟨rfl, hsection⟩, hbefore⟩

/-- The section that is found is the first one with the earliest wanted name that any carries. -/
theorem select_eq_ok_iff : select sections wanted = .ok s ↔ IsSelected sections wanted s := by
  rw [← findSome?_eq_some_iff, select]
  split
  · next h => rw [h, Except.ok.injEq, Option.some.injEq]
  · next h => rw [h]; exact iff_of_false nofun nofun

/-- A selection fails exactly if no section carries a wanted name, and tells all of them. -/
theorem select_eq_error_iff : select sections wanted = .error e ↔
    (∀ name ∈ wanted, ∀ t ∈ sections, t.name ≠ name) ∧
      e = .sectionNotFound (", ".intercalate wanted) := by
  simp only [← find?_eq_none_iff, ← List.findSome?_eq_none_iff]
  rw [select]
  split
  · next h => rw [h]; exact iff_of_false nofun (fun hnot ↦ nomatch hnot.1)
  · next h => rw [h, Except.error.injEq, eq_self, true_and, eq_comm]

end Section

end FuncMeta
