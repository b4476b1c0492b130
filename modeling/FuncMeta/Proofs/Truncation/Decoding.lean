import FuncMeta.Image.Record
import FuncMeta.Proofs.Image.Naming
import FuncMeta.Proofs.Image.Search

/-!
# Decoding a truncated region

A region that is cut short shows the same bytes as far as it goes. So every decoder either answers
as on the whole region or fails. `EqUnless` is that relation; it passes through sequencing, which
carries it from the reads to the search. Main statements: `readCString_take` and `decode_take`.
-/

namespace FuncMeta

namespace Outcome

universe u v w

variable {ε : Type u} {ε' : Type w} {α β : Type v}

/-- Two outcomes are equal, unless the first one fails with an error of a given kind. -/
def EqUnless (isKind : ε → Prop) (x y : Outcome ε α) : Prop :=
  x = y ∨ ∃ e, isKind e ∧ x = .error e

namespace EqUnless

variable {isKind : ε → Prop} {isKind' : ε' → Prop} {x y : Outcome ε α}

/-- An outcome is equal to itself. -/
theorem refl (x : Outcome ε α) : EqUnless isKind x x := .inl rfl

/-- An error of the given kind may stand for any outcome. -/
theorem error {e : ε} (he : isKind e) : EqUnless isKind (.error e) y := .inr ⟨e, he, rfl⟩

/-- A value stays the same. -/
theorem eq_of_ok {a : α} (h : EqUnless isKind x y) (hx : x = .ok a) : y = .ok a := by
  rcases h with rfl | ⟨e, -, he⟩
  · exact hx
  · rw [hx] at he
    cases he

/-- Two steps are equal unless one of them fails with an error of the given kind. -/
theorem bind {f g : α → Outcome ε β} (h : EqUnless isKind x y)
    (hfg : ∀ a, EqUnless isKind (f a) (g a)) : EqUnless isKind (x >>= f) (y >>= g) := by
  rcases h with rfl | ⟨e, he, rfl⟩
  · cases x with
    | ok a => exact hfg a
    | error e => exact .refl _
    | halt => exact .refl _
  · exact .error he

/-- Applying a function to the value keeps outcomes equal. -/
theorem map {f : α → β} (h : EqUnless isKind x y) : EqUnless isKind (f <$> x) (f <$> y) := by
  rcases h with rfl | ⟨e, he, rfl⟩
  · exact .refl _
  · exact .error he

/-- Restating failures keeps outcomes equal if it keeps their kind. -/
theorem mapError {f : ε → ε'} (h : EqUnless isKind x y) (hf : ∀ e, isKind e → isKind' (f e)) :
    EqUnless isKind' (x.mapError f) (y.mapError f) := by
  rcases h with rfl | ⟨e, he, rfl⟩
  · exact .refl _
  · exact .error (hf e he)

/-- A computation without machine words need only keep its value. -/
theorem ofExcept {x y : Except ε α} (hkind : ∀ e, isKind e) (h : ∀ a, x = .ok a → y = .ok a) :
    EqUnless isKind (Outcome.ofExcept x) (Outcome.ofExcept y) := by
  cases x with
  | ok a => rw [h a rfl]; exact .refl _
  | error e => exact .error (hkind e)

end EqUnless

/-- Two outcomes are equal, unless the first one fails. -/
abbrev EqUnlessError (x y : Outcome ε α) : Prop := EqUnless (fun _ ↦ True) x y

/-- Reads whose values stay the same decode alike. -/
theorem EqUnless.ofRead {α : Type} {x y : Except RegionError α} (h : ∀ a, x = .ok a → y = .ok a) :
    EqUnlessError (LayoutError.ofRead x) (LayoutError.ofRead y) := by
  cases x with
  | ok a => rw [h a rfl]; exact .refl _
  | error e => exact .error trivial

end Outcome

open Outcome (EqUnless EqUnlessError)

namespace Region

variable {r : Region} {n offset width : Nat}

private theorem map_eq_ok {ε α β : Type} {x y : Except ε α} {f : α → β}
    (h : ∀ a, x = .ok a → y = .ok a) : ∀ b, x.map f = .ok b → y.map f = .ok b := by
  intro b hb
  cases x with
  | ok a => rw [h a rfl]; exact hb
  | error e => cases hb

private theorem readNat_take : ∀ m, (r.take n).readNat offset width = .ok m →
    r.readNat offset width = .ok m := by
  intro m h
  obtain ⟨hle, hm⟩ := readNat_eq_ok_iff.mp h
  rw [size_take] at hle
  rw [natAt_take (by omega)] at hm
  exact readNat_eq_ok_iff.mpr ⟨by omega, hm⟩

/-- A byte that is read from the first part of a region is the one of the region. -/
theorem readUInt8_take : ∀ a, (r.take n).readUInt8 offset = .ok a → r.readUInt8 offset = .ok a :=
  map_eq_ok readNat_take

/-- A word of four bytes that is read from the first part of a region is the one of the region. -/
theorem readUInt32_take :
    ∀ a, (r.take n).readUInt32 offset = .ok a → r.readUInt32 offset = .ok a :=
  map_eq_ok readNat_take

/-- A signed word that is read from the first part of a region is the one of the region. -/
theorem readInt32_take : ∀ a, (r.take n).readInt32 offset = .ok a → r.readInt32 offset = .ok a :=
  map_eq_ok readUInt32_take

/-- A word that is read from the first part of a region is the one of the region. -/
theorem readWord_take {width : UInt8} :
    ∀ a, (r.take n).readWord offset width = .ok a → r.readWord offset width = .ok a := by
  intro a h
  rw [readWord] at h ⊢
  split at h
  · next h4 =>
    rw [if_pos h4]
    exact map_eq_ok readUInt32_take a h
  · next h4 =>
    rw [if_neg h4]
    split at h
    · next h8 =>
      rw [if_pos h8]
      exact map_eq_ok readNat_take a h
    · cases h

/-- The word at a place is the same in any first part of the region that has the place. -/
theorem wordAt_take {width : UInt8} (h : offset + width.toNat ≤ n) :
    (r.take n).wordAt offset width = r.wordAt offset width := by
  rw [wordAt, wordAt, natAt_take h]

/-- A string that is read from a truncated region is read from the whole one, up to any later
end. -/
theorem readCString_take {found : Region} {stop stop' : Nat}
    (h : (r.take n).readCString offset stop = .ok found) (hle : stop ≤ stop')
    (hsize : stop' ≤ r.size) : r.readCString offset stop' = .ok found := by
  obtain ⟨hstop, place, hlt, hfirst, rfl⟩ := readCString_eq_ok_iff.mp h
  rw [size_take] at hstop
  rw [toList_take] at hfirst
  refine readCString_eq_ok_iff.mpr
    ⟨hsize, place, Nat.lt_of_lt_of_le hlt hle, hfirst.of_take (by omega), ?_⟩
  apply ext
  rw [toList_extract, toList_extract, toList_take, List.drop_take, List.take_take,
    Nat.min_eq_left (by omega)]

end Region

namespace Header

variable {r : Region} {h : Header} {n : Nat}

private theorem shownWith_take {width : UInt8} (hlead : leadSize ≤ n) (hle : sizeFor width ≤ n) :
    shownWith (r.take n) width = shownWith r width := by
  have word (index : Nat) (hi : index < 7) :
      (r.take n).wordAt (wordPlace width index) width = r.wordAt (wordPlace width index) width :=
    Region.wordAt_take (Nat.le_trans (wordPlace_le hi) hle)
  rw [leadSize] at hlead
  simp only [shownWith, word 0 (by decide), word 1 (by decide), word 2 (by decide),
    word 3 (by decide), word 4 (by decide), word 5 (by decide), word 6 (by decide),
    Region.natAt_take (by omega : 0 + 4 ≤ n), Region.natAt_take (by omega : 6 + 1 ≤ n)]

/-- A header that fits a region fits a larger one. -/
theorem IsValid.mono {size size' : Nat} (hv : h.IsValid size) (hle : size ≤ size') :
    h.IsValid size' where
  magic := hv.magic
  isWordSize := hv.isWordSize
  size_le := Nat.le_trans hv.size_le hle
  count_lt := hv.count_lt
  offset_lt := fun table htable ↦ Nat.lt_of_lt_of_le (hv.offset_lt table htable) hle

/-- The header of a truncated region is that of the whole one. -/
theorem decode_take (hd : decode (r.take n) = .ok h) : decode r = .ok h := by
  obtain ⟨rfl, hv⟩ := decode_eq_ok_iff.mp hd
  have hsize := hv.size_le
  have hlead : leadSize ≤ (shown (r.take n)).size := Nat.le_add_right ..
  rw [Region.size_take] at hsize
  have hwidth : UInt8.ofNat ((r.take n).natAt 7 1) = UInt8.ofNat (r.natAt 7 1) := by
    rw [leadSize] at hlead
    rw [Region.natAt_take (by omega)]
  have hshown : shown (r.take n) = shown r := by
    rw [shown, shownWith_take (by omega) (by exact (by omega : (shown (r.take n)).size ≤ n)),
      hwidth, shown]
  refine decode_eq_ok_iff.mpr ⟨hshown.symm, hv.mono ?_⟩
  rw [Region.size_take]
  exact Nat.min_le_right ..

/-- A table of a truncated region ends no later than in the whole one. -/
theorem tableEnd_mono (h : Header) (kind : TableKind) {size size' : Nat} (hle : size ≤ size') :
    h.tableEnd kind size ≤ h.tableEnd kind size' := by
  unfold tableEnd
  split
  · omega
  · exact hle

end Header

end FuncMeta
