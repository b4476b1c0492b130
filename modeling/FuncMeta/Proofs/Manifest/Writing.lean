import FuncMeta.Proofs.Image.Acceptance
import FuncMeta.Proofs.Manifest.Encoding
import Mathlib.Algebra.Group.Int.Defs
import Mathlib.Algebra.Group.Nat.Defs

/-!
# Words written behind an output

A word is written behind what an output holds already; a number that has no room is refused, and the
output stays as it was. What was written is read back from its place, without a sign and with one,
whatever stands in front of it and behind it, and a word that is read is written as it stood. The
words of an image come about in this way. Main statements: `run_writeWord`,
`outputOf_forM_writeWord` and `words_of_any_output`.
-/

namespace FuncMeta

private theorem LittleEndian.limit_eq_two_pow (width : Nat) : limit width = 2 ^ (8 * width) := by
  induction width with
  | zero => rfl
  | succ width ih => rw [limit, ih, Nat.mul_succ, Nat.pow_add, Nat.mul_comm]

namespace Region

variable {r : Region} {before after : List UInt8} {offset n : Nat} {width : UInt8}

/-- The highest bit of a word is its sign: a number that has it set stands for one below zero. -/
theorem toInt_signedAt_eq_ite (hw : IsWordSize width) (hle : offset + width.toNat ≤ r.size) :
    (r.signedAt offset width).toInt =
      if r.natAt offset width.toNat < 2 ^ (8 * width.toNat - 1) then
        (r.natAt offset width.toNat : Int)
      else (r.natAt offset width.toNat : Int) - 2 ^ (8 * width.toNat) := by
  have hlt := natAt_lt hle
  have hpos := hw.toNat_pos
  have hhalf : LittleEndian.limit width.toNat = 2 ^ (8 * width.toNat - 1) * 2 := by
    rw [LittleEndian.limit_eq_two_pow, ← Nat.pow_succ]
    congr 1
    omega
  have hlimit : ((LittleEndian.limit width.toNat : Nat) : Int) = 2 ^ (8 * width.toNat) := by
    rw [LittleEndian.limit_eq_two_pow, Int.natCast_pow]
    rfl
  rw [Header.toInt_signedAt hw, Int.bmod_def,
    Int.emod_eq_of_lt (Int.natCast_nonneg _) (Int.ofNat_lt.mpr hlt), ← hlimit]
  split
  · next h => rw [if_pos (by omega)]
  · next h => rw [if_neg (by omega)]

/-- A number is read back from between the bytes in front of it and those behind it. -/
theorem natAt_of_toList {width : Nat}
    (hr : r.toList = before ++ LittleEndian.encode width n ++ after)
    (hn : n < LittleEndian.limit width) :
    before.length + width ≤ r.size ∧ r.natAt before.length width = n := by
  have hlength := LittleEndian.length_encode width n
  constructor
  · rw [← length_toList, hr, List.length_append, List.length_append, hlength]
    exact Nat.le_add_right ..
  · have hwindow : window r.toList before.length width = LittleEndian.encode width n := by
      rw [List.append_assoc] at hr
      have hpart := window_part before hr rfl
      rwa [hlength] at hpart
    rw [natAt, hwindow, LittleEndian.decode_encode_of_lt hn]

/-- Bytes are written as they were read. -/
theorem encode_natAt {width : Nat} (h : offset + width ≤ r.size) :
    LittleEndian.encode width (r.natAt offset width) = window r.toList offset width := by
  rw [← length_toList] at h
  have hencode := LittleEndian.encode_decode (window r.toList offset width)
  rwa [length_window_of_le h] at hencode

end Region

namespace Manifest

variable {r : Region} {width : UInt8} {value offset : Nat} {before after out : List UInt8}
  {v : UInt64} {e : LayoutError}

/-- Writes a word behind what the output holds. -/
def writeWord (width : UInt8) (value : Nat) : EStateM LayoutError (List UInt8) Unit := do
  let bytes ← MonadExcept.ofExcept (encodeWord width value)
  modify (· ++ bytes)

/-- What the output holds in the end, unless something was refused. -/
def outputOf {ε σ α : Type} : EStateM.Result ε σ α → Except ε σ
  | .ok _ out => .ok out
  | .error e _ => .error e

private theorem hasRoom_iff (hw : IsWordSize width) :
    HasRoom width value ↔ width = 8 ∨ value < 2 ^ 32 := by
  rcases hw with rfl | rfl
  · simp [HasRoom]
  · simp [HasRoom]

/-- A word is written behind the output, or refused with the output as it was. -/
theorem run_writeWord (hw : IsWordSize width) :
    (writeWord width value).run out =
      if HasRoom width value then .ok () (out ++ LittleEndian.encode width.toNat value)
      else .error (noRoom value) out := by
  rw [writeWord, encodeWord_eq hw, written]
  by_cases h : HasRoom width value
  · rw [if_pos h, List.find?_cons_of_neg (by simpa using h)]
    rfl
  · rw [if_neg h, List.find?_cons_of_pos (by simpa using h)]
    rfl

private theorem run_writeWord_eq_ok_iff (hw : IsWordSize width) :
    (writeWord width value).run before = .ok () out ↔
      HasRoom width value ∧ before ++ LittleEndian.encode width.toNat value = out := by
  rw [run_writeWord hw]
  split
  · next h => simp [h]
  · next h => simp [h]

private theorem run_writeWord_eq_error_iff (hw : IsWordSize width) :
    (writeWord width value).run before = .error e out ↔
      ¬ HasRoom width value ∧ noRoom value = e ∧ before = out := by
  rw [run_writeWord hw]
  split
  · next h => simp [h]
  · next h => simp [h]

private theorem encodeWords_cons (width : UInt8) (value : Nat) (values : List Nat) :
    encodeWords width (value :: values) =
      (encodeWord width value >>= fun bytes ↦ (bytes ++ ·) <$> encodeWords width values) := by
  rw [encodeWords, encodeWords, List.mapM_cons]
  cases encodeWord width value with
  | error e => rfl
  | ok bytes =>
    cases values.mapM (encodeWord width) with
    | error e => rfl
    | ok rest => rfl

/-- Writing words one after another puts the bytes of all of them behind the output, or ends with
the refusal of the first one that has no room. -/
theorem outputOf_forM_writeWord (width : UInt8) (values : List Nat) (before : List UInt8) :
    outputOf ((values.forM (writeWord width)).run before) =
      (before ++ ·) <$> encodeWords width values := by
  induction values generalizing before with
  | nil => exact congrArg Except.ok (List.append_nil before).symm
  | cons value values ih =>
    rw [List.forM, EStateM.run_bind, encodeWords_cons, writeWord]
    cases encodeWord width value with
    | error e => rfl
    | ok bytes =>
      show outputOf ((values.forM (writeWord width)).run (before ++ bytes)) = _
      rw [ih]
      cases encodeWords width values with
      | error e => rfl
      | ok rest => exact congrArg Except.ok (List.append_assoc before bytes rest)

/-- A word that was written is read back, and its highest bit is its sign. -/
theorem reads_of_writeWord (hw : IsWordSize width)
    (hwritten : (writeWord width v.toNat).run before = .ok () out) (hr : r.toList = out ++ after) :
    r.readWord before.length width = .ok v ∧
      ∃ s, r.readSignedWord before.length width = .ok s ∧
        s.toInt = if v.toNat < 2 ^ (8 * width.toNat - 1) then (v.toNat : Int)
          else (v.toNat : Int) - 2 ^ (8 * width.toNat) := by
  obtain ⟨hroom, rfl⟩ := (run_writeWord_eq_ok_iff hw).mp hwritten
  obtain ⟨hle, hnat⟩ := Region.natAt_of_toList hr (hroom.lt_limit hw v.toNat_lt)
  have hword : r.wordAt before.length width = v := by
    rw [Region.wordAt, hnat, UInt64.ofNat_toNat]
  refine ⟨?_, r.signedAt before.length width, Region.readSignedWord_of_le hw hle, ?_⟩
  · rw [Region.readWord_of_le hw hle, hword]
  · rw [Region.toInt_signedAt_eq_ite hw hle, hnat]

/-- A word that is read has room, and is written as it stands in the region. -/
theorem run_writeWord_of_readWord (hw : IsWordSize width) (h : r.readWord offset width = .ok v) :
    (writeWord width v.toNat).run out = .ok () (out ++ window r.toList offset width.toNat) := by
  obtain ⟨hle, rfl⟩ := (Region.readWord_eq_ok_iff hw).mp h
  have hlt := Region.natAt_lt hle
  rw [run_writeWord hw, Region.toNat_wordAt hw hle, Region.encode_natAt hle]
  apply if_pos
  rintro rfl
  exact hlt

/-- Words of four or eight bytes are written and read back without loss, wherever they stand. A
number is written as its digits to base 256 exactly if it has room, and otherwise the output stays
as it was. Behind any output and in front of any other bytes it is read back as it was written, and
as a two's complement if its sign is asked for. The other way round, a word that is read is written
byte for byte as the region holds it; reading fails exactly where the word would end beyond the
region. The words of an image are what an empty output holds when they have been written. -/
theorem words_of_any_output (width : UInt8) (hw : IsWordSize width) :
    (∀ (v : UInt64) (before : List UInt8),
      (∀ out, (writeWord width v.toNat).run before = .ok () out ↔
        (width = 8 ∨ v.toNat < 2 ^ 32) ∧
          before ++ LittleEndian.encode width.toNat v.toNat = out) ∧
      (∀ e out, (writeWord width v.toNat).run before = .error e out → out = before) ∧
      ∀ out after (r : Region), (writeWord width v.toNat).run before = .ok () out →
        r.toList = out ++ after →
          r.readWord before.length width = .ok v ∧
            ∃ s, r.readSignedWord before.length width = .ok s ∧
              s.toInt = if v.toNat < 2 ^ (8 * width.toNat - 1) then (v.toNat : Int)
                else (v.toNat : Int) - 2 ^ (8 * width.toNat)) ∧
      (∀ (r : Region) (offset : Nat),
        (∀ v out, r.readWord offset width = .ok v →
          (writeWord width v.toNat).run out =
            .ok () (out ++ window r.toList offset width.toNat)) ∧
        ((∃ e, r.readWord offset width = .error e) ↔ r.size < offset + width.toNat)) ∧
      ∀ values, encodeWords width values =
        outputOf ((values.forM (writeWord width)).run []) := by
  refine ⟨?_, ?_, ?_⟩
  · intro v before
    refine ⟨?_, ?_, ?_⟩
    · intro out
      rw [run_writeWord_eq_ok_iff hw, hasRoom_iff hw]
    · intro e out herror
      obtain ⟨-, -, hout⟩ := (run_writeWord_eq_error_iff hw).mp herror
      exact hout.symm
    · intro out after r hwritten hr
      exact reads_of_writeWord hw hwritten hr
  · intro r offset
    refine ⟨fun v out hread ↦ run_writeWord_of_readWord hw hread, ?_⟩
    simp only [Region.readWord_eq_error_iff hw, exists_and_left, exists_eq', and_true]
  · intro values
    rw [outputOf_forM_writeWord]
    exact (id_map (encodeWords width values)).symm

/-- The number five below zero in a word of four bytes, between two other bytes. -/
def negativeWord : Region where
  bytes := ⟨#[0x7f, 0xfb, 0xff, 0xff, 0xff, 9]⟩
  size_lt := by decide

/-- The number five below zero is written in four bytes and read back, without its sign and with it.
Two to the power of 32 is refused, and nothing is read where an end would leave the machine word. -/
theorem words_of_any_output_negative :
    IsWordSize 4 ∧
      (writeWord 4 0xfffffffb).run [0x7f] = .ok () [0x7f, 0xfb, 0xff, 0xff, 0xff] ∧
      negativeWord.readWord 1 4 = .ok 0xfffffffb ∧
      (∃ s, negativeWord.readSignedWord 1 4 = .ok s ∧ s.toInt = -5) ∧
      (∀ out, (writeWord 4 0x100000000).run [0x7f] ≠ .ok () out) ∧
      ∃ e, negativeWord.readWord 0xfffffffffffffffe 4 = .error e := by
  have hw : IsWordSize 4 := .inl rfl
  obtain ⟨hwrite, hread, -⟩ := words_of_any_output 4 hw
  obtain ⟨hok, -, hback⟩ := hwrite 0xfffffffb [0x7f]
  have hwritten := (hok [0x7f, 0xfb, 0xff, 0xff, 0xff]).mpr ⟨.inr (by decide), by decide⟩
  obtain ⟨hword, hsigned⟩ := hback _ [9] negativeWord hwritten rfl
  refine ⟨hw, hwritten, hword, hsigned, ?_, (hread negativeWord _).2.mpr (by decide)⟩
  intro out hout
  obtain ⟨hroom, -⟩ := ((hwrite 0x100000000 [0x7f]).1 out).mp hout
  exact absurd hroom (by decide)

end Manifest

end FuncMeta
