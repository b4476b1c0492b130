import FuncMeta.Text.Numeral
import FuncMeta.Word

/-!
# Addresses and address ranges

An address is a 64-bit word. It is shown as `0x` and sixteen hexadecimal digits; sums and
differences that leave the word have no value. A range runs from its start up to, not including, its
stop. Ranges made by `ofBounds?` and `ofStartSize` do not stop before they start; a range read from
a file may, and then has no size. Main statements: `start_le_stop_ofStartSize` and `size_of_le`.
-/

namespace FuncMeta

/-- A place in a 64-bit address space. -/
structure Address where
  /-- The address as a word. -/
  value : UInt64
deriving DecidableEq, Repr, Inhabited

namespace Address

/-- The address as a natural number. -/
def toNat (a : Address) : Nat := a.value.toNat

/-- The address of a number, modulo the size of the address space. -/
def ofNat (n : Nat) : Address := ⟨UInt64.ofNat n⟩

/-- The null address. -/
def null : Address := ⟨0⟩

instance : LT Address where lt a b := a.value < b.value

instance : LE Address where le a b := a.value ≤ b.value

instance (a b : Address) : Decidable (a < b) := inferInstanceAs (Decidable (a.value < b.value))

instance (a b : Address) : Decidable (a ≤ b) := inferInstanceAs (Decidable (a.value ≤ b.value))

/-- Addresses are ordered as their numbers are. -/
theorem lt_iff_toNat_lt {a b : Address} : a < b ↔ a.toNat < b.toNat := UInt64.lt_iff_toNat_lt

/-- One address lies at or below another exactly if its number does. -/
theorem le_iff_toNat_le {a b : Address} : a ≤ b ↔ a.toNat ≤ b.toNat := UInt64.le_iff_toNat_le

/-- The number of an address is that of a word. -/
theorem toNat_lt (a : Address) : a.toNat < Word.limit := a.value.toNat_lt

/-- Addresses are equal exactly if their numbers are. -/
theorem toNat_inj {a b : Address} : a.toNat = b.toNat ↔ a = b := by
  cases a
  cases b
  simp [toNat, UInt64.toNat_inj]

/-- Whether this is the null address. -/
def isNull (a : Address) : Bool := a.value == 0

/-- The address `n` bytes further on, if the address space reaches that far. -/
def add? (a : Address) (n : UInt64) : Option Address :=
  if a.toNat + n.toNat < Word.limit then some ⟨a.value + n⟩ else none

/-- The distance from `b` up to `a`, if `b` does not lie above `a`. -/
def sub? (a b : Address) : Option UInt64 :=
  if b ≤ a then some (a.value - b.value) else none

/-- Whether the address lies at or above `start` and below `stop`. -/
def isWithin (a start stop : Address) : Bool := start ≤ a && a < stop

/-- The shortest lower-case hexadecimal digits. -/
def lowerDigits (a : Address) : String := Numeral.hex 1 a.toNat

/-- The shortest upper-case hexadecimal digits. -/
def upperDigits (a : Address) : String := Numeral.upperHex 1 a.toNat

/-- The prefixed address with at least `width` lower-case digits. -/
def render (width : Nat) (a : Address) : String := "0x" ++ Numeral.hex width a.toNat

/-- The prefixed address with at least `width` upper-case digits. -/
def renderUpper (width : Nat) (a : Address) : String := "0x" ++ Numeral.upperHex width a.toNat

/-- Addresses are shown with all their sixteen digits. -/
instance : ToString Address where toString a := a.render 16

end Address

/-- The addresses from `start` up to, not including, `stop`. -/
structure AddressRange where
  /-- The first address. -/
  start : Address
  /-- The first address that is no longer in the range. -/
  stop : Address
deriving DecidableEq, Repr

namespace AddressRange

/-- The range between two addresses, if they are in order. -/
def ofBounds? (start stop : Address) : Option AddressRange :=
  if start ≤ stop then some { start, stop } else none

/-- The range of `size` bytes from `start`, cut off at the last address. -/
def ofStartSize (start : Address) (size : Nat) : AddressRange where
  start := start
  stop := .ofNat (Word.saturate (start.toNat + size))

/-- The number of bytes in the range; the machine halts if the range stops before it starts. -/
def size {ε : Type} (r : AddressRange) : Outcome ε Nat := Word.sub r.stop.toNat r.start.toNat

/-- Whether an address lies in the range. -/
def contains (r : AddressRange) (a : Address) : Bool := a.isWithin r.start r.stop

/-- Whether the range has no address. -/
def isEmpty (r : AddressRange) : Bool := r.stop ≤ r.start

instance : ToString AddressRange where toString r := s!"[{r.start}, {r.stop})"

/-- A range has the addresses from its start on that lie below its stop. -/
theorem contains_iff {r : AddressRange} {a : Address} :
    r.contains a = true ↔ r.start ≤ a ∧ a < r.stop := by
  rw [contains, Address.isWithin, Bool.and_eq_true, decide_eq_true_eq, decide_eq_true_eq]

/-- Two addresses in order bound a range. -/
theorem ofBounds?_of_le {start stop : Address} (h : start ≤ stop) :
    ofBounds? start stop = some { start, stop } := if_pos h

/-- A range of some bytes does not stop before it starts. -/
theorem start_le_stop_ofStartSize (start : Address) (size : Nat) :
    (ofStartSize start size).start ≤ (ofStartSize start size).stop := by
  have hstart := start.toNat_lt
  have hstop : (Address.ofNat (Word.saturate (start.toNat + size))).toNat =
      Word.saturate (start.toNat + size) := by
    apply UInt64.toNat_ofNat_of_lt'
    show Word.saturate (start.toNat + size) < Word.limit
    rw [Word.saturate]
    omega
  rw [Address.le_iff_toNat_le]
  show start.toNat ≤ (Address.ofNat (Word.saturate (start.toNat + size))).toNat
  rw [hstop, Word.saturate]
  omega

/-- A range that does not stop before it starts has a size. -/
theorem size_of_le {ε : Type} {r : AddressRange} (h : r.start ≤ r.stop) :
    (r.size : Outcome ε Nat) = .ok (r.stop.toNat - r.start.toNat) :=
  Word.sub_of_le (Address.le_iff_toNat_le.mp h)

end AddressRange

end FuncMeta
