import FuncMeta.Outcome

/-!
# Machine words

Sizes, offsets and addresses are words of 64 bits. Their arithmetic is carried out on natural
numbers, and each operation says what becomes of a result that leaves the word: `add?` and `mul?`
give nothing, `saturate` keeps the largest word, `fit` and `sub` halt. Nor can room be made for more
bytes than half of the words can count.

A word is stored as its digits to base 256, the lowest first. `encode` writes a number into a given
number of bytes and drops what does not fit; `decode` reads it back. Main statements:
`decode_encode`, and `encode_decode` for the opposite direction.
-/

namespace FuncMeta

namespace Word

universe u

/-- The number of different words: two to the power of 64. -/
abbrev limit : Nat := 0x10000000000000000

/-- Half the number of different words. -/
abbrev half : Nat := 0x8000000000000000

/-- The sum of two words, if it is a word. -/
def add? (a b : Nat) : Option Nat :=
  if a + b < limit then some (a + b) else none

/-- The product of two words, if it is a word. -/
def mul? (a b : Nat) : Option Nat :=
  if a * b < limit then some (a * b) else none

/-- The word nearest to a number. -/
def saturate (n : Nat) : Nat := min n (limit - 1)

/-- A number that has to be a word; the machine halts on any other. -/
def fit {ε : Type u} (n : Nat) : Outcome ε Nat :=
  if n < limit then .ok n else .halt

/-- The difference of two words that has to be a word; the machine halts if `b` exceeds `a`. -/
def sub {ε : Type u} (a b : Nat) : Outcome ε Nat :=
  if b ≤ a then .ok (a - b) else .halt

/-- Makes room for `count` elements of a size; the machine halts if they take half of the address
space or more. That the system may have less memory to give, and refuse a smaller request too, is
left out. -/
def reserve {ε : Type u} (count elementSize : Nat) : Outcome ε Unit :=
  if count * elementSize < half then .ok () else .halt

/-- A sum is given exactly if it is a word. -/
theorem add?_eq_some_iff {a b c : Nat} : add? a b = some c ↔ a + b < limit ∧ a + b = c := by
  simp [add?]

/-- A product is given exactly if it is a word. -/
theorem mul?_eq_some_iff {a b c : Nat} : mul? a b = some c ↔ a * b < limit ∧ a * b = c := by
  simp [mul?]

/-- A number fits exactly if it is a word. -/
theorem fit_eq_ok_iff {ε : Type u} {n k : Nat} :
    (fit n : Outcome ε Nat) = .ok k ↔ n < limit ∧ n = k := by
  rw [fit]
  split
  · next h => simp [h]
  · next h => simp [h]

/-- A word fits. -/
theorem fit_of_lt {ε : Type u} {n : Nat} (h : n < limit) : (fit n : Outcome ε Nat) = .ok n := by
  rw [fit, if_pos h]

/-- A difference is given if nothing larger is taken away. -/
theorem sub_of_le {ε : Type u} {a b : Nat} (h : b ≤ a) :
    (sub a b : Outcome ε Nat) = .ok (a - b) := by
  rw [sub, if_pos h]

end Word

namespace LittleEndian

/-- The number whose digits to base 256 are the given bytes, the lowest first. -/
def decode : List UInt8 → Nat
  | [] => 0
  | b :: bs => b.toNat + 256 * decode bs

/-- The lowest `width` digits of `n` to base 256, the lowest first. -/
def encode : (width n : Nat) → List UInt8
  | 0, _ => []
  | width + 1, n => UInt8.ofNat (n % 256) :: encode width (n / 256)

/-- The number of different contents that `width` bytes have. -/
def limit : (width : Nat) → Nat
  | 0 => 1
  | width + 1 => 256 * limit width

/-- A number is written into as many bytes as asked for. -/
@[simp] theorem length_encode (width n : Nat) : (encode width n).length = width := by
  induction width generalizing n with
  | zero => rfl
  | succ width ih => simp [encode, ih]

/-- A number is read back up to the digits that its bytes have room for. -/
theorem decode_encode (width n : Nat) : decode (encode width n) = n % limit width := by
  induction width generalizing n with
  | zero => simp [encode, decode, limit, Nat.mod_one]
  | succ width ih =>
    have hb : (UInt8.ofNat (n % 256)).toNat = n % 256 := by
      simp [UInt8.toNat_ofNat']
    rw [encode, decode, ih, hb, limit, Nat.mod_mul]

/-- Bytes hold a number that is smaller than the number of contents they may have. -/
theorem decode_lt (bs : List UInt8) : decode bs < limit bs.length := by
  induction bs with
  | nil => simp [decode, limit]
  | cons b bs ih =>
    have hb := b.toNat_lt
    rw [decode, List.length_cons, limit]
    omega

/-- Bytes are written back as they were read. -/
theorem encode_decode (bs : List UInt8) : encode bs.length (decode bs) = bs := by
  induction bs with
  | nil => rfl
  | cons b bs ih =>
    have hb := b.toNat_lt
    have hmod : (b.toNat + 256 * decode bs) % 256 = b.toNat := by omega
    have hdiv : (b.toNat + 256 * decode bs) / 256 = decode bs := by omega
    rw [List.length_cons, decode, encode, hmod, hdiv, ih, UInt8.ofNat_toNat]

end LittleEndian

end FuncMeta
