import FuncMeta.Region

/-!
# Windows of bytes

A window is what lies between two places of a byte list. Every read from a region is a function of
one window, so the readers are described here once: when they succeed, and which window they show.
Main statements: `window_part`, `window_flatMap` and `readNat_eq_ok_iff`.
-/

namespace FuncMeta

/-- The `length` bytes from `offset` on, or those of them that there are. -/
def window (bs : List UInt8) (offset length : Nat) : List UInt8 := (bs.drop offset).take length

/-- A window is as long as asked for, unless the bytes end before. -/
theorem length_window (bs : List UInt8) (offset length : Nat) :
    (window bs offset length).length = min length (bs.length - offset) := by
  rw [window, List.length_take, List.length_drop]

/-- A window that lies in the bytes is as long as asked for. -/
theorem length_window_of_le {bs : List UInt8} {offset length : Nat}
    (h : offset + length ≤ bs.length) : (window bs offset length).length = length := by
  rw [length_window]
  omega

/-- A window that ends before a cut is not changed by it. -/
theorem window_take {bs : List UInt8} {n offset length : Nat} (h : offset + length ≤ n) :
    window (bs.take n) offset length = window bs offset length := by
  rw [window, window, List.drop_take, List.take_take, Nat.min_eq_left (by omega)]

/-- A window in the first of two byte lists. -/
theorem window_append_left {front back : List UInt8} {offset length : Nat}
    (h : offset + length ≤ front.length) :
    window (front ++ back) offset length = window front offset length := by
  rw [window, window, List.drop_append_of_le_length (by omega),
    List.take_append_of_le_length (by rw [List.length_drop]; omega)]

/-- A window in the second of two byte lists. -/
theorem window_append_right (front back : List UInt8) (offset length : Nat) :
    window (front ++ back) (front.length + offset) length = window back offset length := by
  rw [window, window, ← List.drop_drop, List.drop_left]

/-- A window in the second of three byte lists. -/
theorem window_append_middle {front part back : List UInt8} {offset length : Nat}
    (h : offset + length ≤ part.length) :
    window (front ++ (part ++ back)) (front.length + offset) length =
      window part offset length := by
  rw [window_append_right, window_append_left h]

/-- A whole byte list is the window from its start. -/
theorem window_zero_length (bs : List UInt8) : window bs 0 bs.length = bs := by
  rw [window, List.drop_zero, List.take_length]

/-- The window of the front part is the front part. -/
theorem window_left (front back : List UInt8) :
    window (front ++ back) 0 front.length = front := by
  rw [window_append_left (Nat.le_of_eq (Nat.zero_add _)), window_zero_length]

/-- The window of the back part is the back part. -/
theorem window_right (front back : List UInt8) :
    window (front ++ back) front.length back.length = back := by
  rw [← Nat.add_zero front.length, window_append_right, window_zero_length]

/-- A part of a byte list is the window of its size from where it starts. -/
theorem window_part {bytes part back : List UInt8} {place : Nat} (front : List UInt8)
    (h : bytes = front ++ (part ++ back)) (hplace : place = front.length) :
    window bytes place part.length = part := by
  rw [h, hplace, ← Nat.add_zero front.length, window_append_middle (by omega), window_zero_length]

section Chunks

variable {α : Type} {chunk : α → List UInt8} {size : Nat}

/-- Chunks of one size take that size for each of them. -/
theorem length_flatMap_of_length_eq (h : ∀ a, (chunk a).length = size) (as : List α) :
    (as.flatMap chunk).length = as.length * size := by
  induction as with
  | nil => rw [List.flatMap_nil, List.length_nil, List.length_nil, Nat.zero_mul]
  | cons a as ih =>
    rw [List.flatMap_cons, List.length_append, h, ih, List.length_cons, Nat.succ_mul, Nat.add_comm]

/-- Chunks of one size stand one after another. -/
theorem window_flatMap (h : ∀ a, (chunk a).length = size) {as : List α} {i : Nat}
    (hi : i < as.length) : window (as.flatMap chunk) (i * size) size = chunk as[i] := by
  induction as generalizing i with
  | nil => cases hi
  | cons a as ih =>
    rw [List.flatMap_cons]
    cases i with
    | zero =>
      rw [Nat.zero_mul, ← h a, window_left, List.getElem_cons_zero]
    | succ i =>
      have hplace : (i + 1) * size = (chunk a).length + i * size := by
        rw [h, Nat.succ_mul, Nat.add_comm]
      rw [hplace, window_append_right, ih (Nat.lt_of_succ_lt_succ hi), List.getElem_cons_succ]

end Chunks

/-- A window inside a window. -/
theorem window_window {bs : List UInt8} {start size offset length : Nat}
    (h : offset + length ≤ size) :
    window (window bs start size) offset length = window bs (start + offset) length := by
  rw [window, window, window, List.drop_take, List.take_take, List.drop_drop,
    Nat.min_eq_left (by omega)]

/-- The start of a window. -/
theorem take_window {bs : List UInt8} {offset length n : Nat} (h : n ≤ length) :
    (window bs offset length).take n = window bs offset n := by
  rw [window, window, List.take_take, Nat.min_eq_left h]

/-- The byte at a place of a window. -/
theorem getElem?_window {bs : List UInt8} {offset length i : Nat} (h : i < length) :
    (window bs offset length)[i]? = bs[offset + i]? := by
  rw [window, List.getElem?_take_of_lt h, List.getElem?_drop]

namespace LittleEndian

/-- Four bytes have as many contents as there are words of 32 bits. -/
@[simp] theorem limit_four : limit 4 = 0x100000000 := rfl

/-- One byte holds its own number. -/
theorem decode_singleton (b : UInt8) : decode [b] = b.toNat := by
  rw [decode, decode, Nat.mul_zero, Nat.add_zero]

/-- Zeros hold zero. -/
theorem decode_replicate_zero (n : Nat) : decode (List.replicate n 0) = 0 := by
  induction n with
  | zero => rfl
  | succ n ih =>
    rw [List.replicate_succ, decode, ih]
    rfl

/-- A number that has room is read back as it was written. -/
theorem decode_encode_of_lt {width n : Nat} (h : n < limit width) :
    decode (encode width n) = n := by
  rw [decode_encode, Nat.mod_eq_of_lt h]

/-- A window of as many bytes as a word holds a number that fits the word. -/
theorem decode_window_lt {bs : List UInt8} {offset width : Nat}
    (h : offset + width ≤ bs.length) : decode (window bs offset width) < limit width := by
  have hlt := decode_lt (window bs offset width)
  rwa [length_window_of_le h] at hlt

end LittleEndian

namespace Region

/-- The size of a region is a word. -/
theorem size_lt_limit (r : Region) : r.size < Word.limit :=
  Nat.lt_trans r.size_lt_half (by decide)

/-- The byte at an offset is the one in the list of the bytes. -/
theorem byte?_eq_getElem? (r : Region) (offset : Nat) : r.byte? offset = r.toList[offset]? := by
  unfold byte? toList
  rw [Array.getElem?_toList]
  by_cases h : offset < r.bytes.size
  · rw [getElem?_pos r.bytes offset h, getElem?_pos r.bytes.data offset h]
    rfl
  · rw [getElem?_neg r.bytes offset h, getElem?_neg r.bytes.data offset h]

/-- The number that the `width` bytes from `offset` on hold. -/
def natAt (r : Region) (offset width : Nat) : Nat :=
  LittleEndian.decode (window r.toList offset width)

/-- The number in a field of the region has no more digits than the field. -/
theorem natAt_lt {r : Region} {offset width : Nat} (h : offset + width ≤ r.size) :
    r.natAt offset width < LittleEndian.limit width :=
  LittleEndian.decode_window_lt (by rwa [length_toList])

/-- The number in a field is the same in any first part of the region that has the field. -/
theorem natAt_take {r : Region} {n offset width : Nat} (h : offset + width ≤ n) :
    (r.take n).natAt offset width = r.natAt offset width := by
  rw [natAt, natAt, toList_take, window_take h]

/-- The bytes of a part of a region are a window of its bytes. -/
theorem toList_extract_add (r : Region) (offset length : Nat) :
    (r.extract offset (offset + length)).toList = window r.toList offset length := by
  rw [toList_extract, window, Nat.add_sub_cancel_left]

/-- The number in a field of the region is read. -/
theorem readNat_of_le {r : Region} {offset width : Nat} (h : offset + width ≤ r.size) :
    r.readNat offset width = .ok (r.natAt offset width) := by
  rw [readNat, slice_of_le h, Except.map, toList_extract_add]
  rfl

/-- A field that leaves the region is refused. -/
theorem readNat_of_lt {r : Region} {offset width : Nat} (h : r.size < offset + width) :
    r.readNat offset width = .error (.outOfBounds offset width r.size) := by
  rw [readNat, slice_of_lt h, Except.map]

/-- A number is read exactly when all of its bytes lie in the region. -/
theorem readNat_eq_ok_iff {r : Region} {offset width n : Nat} :
    r.readNat offset width = .ok n ↔ offset + width ≤ r.size ∧ r.natAt offset width = n := by
  by_cases h : offset + width ≤ r.size
  · simp [readNat_of_le h, h]
  · simp [readNat_of_lt (Nat.not_le.mp h), h]

end Region

end FuncMeta
