import FuncMeta.Image.Audit
import FuncMeta.Proofs.Image.Failure
import FuncMeta.Proofs.Symbol.Agreement

/-!
# The checks of a header

Decoding a header is a sequence of checks, each of which asks one thing of a number that the bytes
hold at a fixed place. If all are met, the header is accepted and consists of these numbers;
otherwise the first one that is not met says how decoding fails, and every question about the image
fails for the same reason. Main statements: `decode_eq_verdict` and `decode_of_any_bytes`.
-/

namespace FuncMeta

/-- A condition on the bytes of a header, and how decoding fails if it is not met. -/
structure HeaderCheck where
  /-- Whether the condition is met. -/
  isMet : Bool
  /-- The failure if it is not. -/
  failure : LayoutError

namespace HeaderCheck

variable {checks rest : List HeaderCheck} {h h' : Header} {e : LayoutError}

/-- What some checks come to: the failure of the first one that is not met, or else the given
header. -/
def verdict (checks : List HeaderCheck) (h : Header) : Except LayoutError Header :=
  match checks.find? (!·.isMet) with
  | some c => .error c.failure
  | none => .ok h

/-- Making one check and going on as the others say is making all of them. -/
theorem ite_eq_verdict {p : Prop} {_ : Decidable p} {isMet : Bool} {x : Except LayoutError Header}
    (hp : p ↔ isMet = false) (hx : ¬ p → x = verdict rest h) :
    (if p then .error e else x) = verdict ({ isMet, failure := e } :: rest) h := by
  by_cases hunmet : p
  · rw [if_pos hunmet, verdict, List.find?_cons_of_pos (by simpa using hp.mp hunmet)]
  · have hmet : isMet = true := Bool.of_not_eq_false fun hfalse ↦ hunmet (hp.mpr hfalse)
    rw [if_neg hunmet, hx hunmet, verdict, verdict,
      List.find?_cons_of_neg (by simpa using hmet)]

/-- A header is accepted exactly if all checks are met. -/
theorem verdict_eq_ok_iff :
    verdict checks h = .ok h' ↔ (∀ c ∈ checks, c.isMet = true) ∧ h = h' := by
  rw [verdict]
  cases hfind : checks.find? (!·.isMet) with
  | some c =>
    have hunmet := List.find?_some hfind
    have hmem := List.mem_of_find?_eq_some hfind
    simp only [reduceCtorEq, false_iff, not_and]
    intro hall
    rw [hall c hmem] at hunmet
    cases hunmet
  | none =>
    have hall := List.find?_eq_none.mp hfind
    simp only [Bool.not_eq_true', Bool.not_eq_false] at hall
    simp only [Except.ok.injEq, iff_and_self]
    exact fun _ ↦ hall

/-- A failure is that of the first check that is not met. -/
theorem verdict_eq_error_iff :
    verdict checks h = .error e ↔
      ∃ front c back, checks = front ++ c :: back ∧ (∀ d ∈ front, d.isMet = true) ∧
        c.isMet = false ∧ c.failure = e := by
  rw [verdict]
  constructor
  · intro herror
    cases hfind : checks.find? (!·.isMet) with
    | none =>
      rw [hfind] at herror
      cases herror
    | some c =>
      rw [hfind] at herror
      obtain ⟨hunmet, front, back, hchecks, hfront⟩ := List.find?_eq_some_iff_append.mp hfind
      exact ⟨front, c, back, hchecks, by simpa using hfront, by simpa using hunmet,
        Except.error.inj herror⟩
  · rintro ⟨front, c, back, hchecks, hfront, hunmet, rfl⟩
    have hfind : checks.find? (!·.isMet) = some c :=
      List.find?_eq_some_iff_append.mpr
        ⟨by simpa using hunmet, front, back, hchecks, by simpa using hfront⟩
    rw [hfind]

end HeaderCheck

namespace Header

variable {r : Region} {h h' : Header} {index : Nat}

/-- The number of bytes in a word, as the header declares it. -/
def wordSize (r : Region) : Nat := r.natAt 7 1

/-- A word of the header, read without a sign. -/
def unsignedWord (r : Region) (index : Nat) : Nat :=
  r.natAt (8 + index * wordSize r) (wordSize r)

/-- A word of the header, read as a two's complement. -/
def signedWord (r : Region) (index : Nat) : Int :=
  Int.bmod (unsignedWord r index) (LittleEndian.limit (wordSize r))

/-- The tables in declared order, each with the word that says where it starts. -/
def tableWords (r : Region) : List (TableKind × Nat) :=
  TableKind.declared.zipIdx.map fun (kind, i) ↦ (kind, unsignedWord r (i + 2))

/-- A table has to start inside a region of the given size. -/
def startCheck (size : Nat) (table : TableKind × Nat) : HeaderCheck where
  isMet := table.2 < size
  failure := .offsetOutOfBounds table.1 table.2 size

/-- What is asked of the bytes of a header, in the order of the checks. -/
def checks (r : Region) : List HeaderCheck :=
  [{ isMet := 4 ≤ r.size
     failure := .truncatedHeader 4 r.size },
   { isMet := r.natAt 0 4 = 0xfffffffa
     failure := .invalidMagic (.ofNat (r.natAt 0 4)) 0xfffffffa },
   { isMet := 8 ≤ r.size
     failure := .truncatedHeader 8 r.size },
   { isMet := wordSize r = 4 ∨ wordSize r = 8
     failure := .unsupportedPointerSize (.ofNat (wordSize r)) },
   { isMet := 8 + 7 * wordSize r ≤ r.size
     failure := .truncatedHeader (8 + 7 * wordSize r) r.size },
   { isMet := 0 ≤ signedWord r 0
     failure := .negativeFunctionCount (.ofInt (signedWord r 0)) }] ++
  (tableWords r).map (startCheck r.size)

/-- Everything that is asked of the bytes of a header is so. -/
structure IsAcceptable (r : Region) : Prop where
  four_le_size : 4 ≤ r.size
  magic : r.natAt 0 4 = 0xfffffffa
  eight_le_size : 8 ≤ r.size
  isWordSize : wordSize r = 4 ∨ wordSize r = 8
  words_le_size : 8 + 7 * wordSize r ≤ r.size
  count_nonneg : 0 ≤ signedWord r 0
  start_lt_size : ∀ i < 5, unsignedWord r (i + 2) < r.size

/-- The fields of a header are the numbers that the bytes of a region hold. -/
structure IsShownBy (h : Header) (r : Region) : Prop where
  magic : h.magic.toNat = r.natAt 0 4
  minInstructionSize : h.minInstructionSize.toNat = r.natAt 6 1
  pointerSize : h.pointerSize.toNat = r.natAt 7 1
  functionCount : (h.functionCount.toNat : Int) = signedWord r 0
  fileCount : h.fileCount.toNat = unsignedWord r 1
  nameTableOffset : h.nameTableOffset.toNat = unsignedWord r 2
  cuTableOffset : h.cuTableOffset.toNat = unsignedWord r 3
  fileTableOffset : h.fileTableOffset.toNat = unsignedWord r 4
  pcTableOffset : h.pcTableOffset.toNat = unsignedWord r 5
  functionTableOffset : h.functionTableOffset.toNat = unsignedWord r 6

/-- A region shows one header only. -/
theorem IsShownBy.unique (hr : h.IsShownBy r) (hr' : h'.IsShownBy r) : h = h' := by
  cases h
  cases h'
  rw [Header.mk.injEq]
  refine ⟨UInt32.toNat_inj.mp (hr.magic.trans hr'.magic.symm),
    UInt8.toNat_inj.mp (hr.minInstructionSize.trans hr'.minInstructionSize.symm),
    UInt8.toNat_inj.mp (hr.pointerSize.trans hr'.pointerSize.symm), ?_,
    UInt64.toNat_inj.mp (hr.fileCount.trans hr'.fileCount.symm),
    UInt64.toNat_inj.mp (hr.nameTableOffset.trans hr'.nameTableOffset.symm),
    UInt64.toNat_inj.mp (hr.cuTableOffset.trans hr'.cuTableOffset.symm),
    UInt64.toNat_inj.mp (hr.fileTableOffset.trans hr'.fileTableOffset.symm),
    UInt64.toNat_inj.mp (hr.pcTableOffset.trans hr'.pcTableOffset.symm),
    UInt64.toNat_inj.mp (hr.functionTableOffset.trans hr'.functionTableOffset.symm)⟩
  exact UInt64.toNat_inj.mp (Int.ofNat.inj (hr.functionCount.trans hr'.functionCount.symm))

private theorem forall_startCheck_iff :
    (∀ table ∈ tableWords r, (startCheck r.size table).isMet = true) ↔
      ∀ i < 5, unsignedWord r (i + 2) < r.size := by
  rw [tableWords, List.forall_mem_map]
  simp only [List.mem_zipIdx_iff_getElem?, startCheck, decide_eq_true_eq]
  constructor
  · intro hall i hi
    exact hall (TableKind.declared[i], i) (List.getElem?_eq_getElem hi)
  · rintro hall ⟨kind, i⟩ hkind
    exact hall i (List.getElem?_eq_some_iff.mp hkind).1

private theorem forall_isMet_iff : (∀ c ∈ checks r, c.isMet = true) ↔ IsAcceptable r := by
  simp only [checks, List.forall_mem_append, List.forall_mem_cons, List.forall_mem_map,
    decide_eq_true_eq, List.not_mem_nil, false_implies, implies_true, and_true]
  rw [forall_startCheck_iff]
  constructor
  · rintro ⟨⟨h4, hmagic, h8, hword, hsize, hcount⟩, hstart⟩
    exact ⟨h4, hmagic, h8, hword, hsize, hcount, hstart⟩
  · intro h
    exact ⟨⟨h.four_le_size, h.magic, h.eight_le_size, h.isWordSize, h.words_le_size,
      h.count_nonneg⟩, h.start_lt_size⟩

private theorem isWordSize_iff_toNat {width : UInt8} :
    IsWordSize width ↔ width.toNat = 4 ∨ width.toNat = 8 := by
  simp only [IsWordSize, ← UInt8.toNat_inj]
  rfl

private theorem toNat_shown_magic (h4 : 4 ≤ r.size) : (shown r).magic.toNat = r.natAt 0 4 :=
  UInt32.toNat_ofNat_of_lt' (Region.natAt_lt h4)

private theorem shown_magic_eq_iff (h4 : 4 ≤ r.size) :
    (shown r).magic = layoutMagic ↔ r.natAt 0 4 = 0xfffffffa := by
  rw [← UInt32.toNat_inj, toNat_shown_magic h4]
  exact Iff.rfl

private theorem toNat_shown_pointerSize (h8 : 8 ≤ r.size) :
    (shown r).pointerSize.toNat = wordSize r :=
  UInt8.toNat_ofNat_of_lt' (Region.natAt_lt h8)

private theorem size_shown (h8 : 8 ≤ r.size) : (shown r).size = 8 + 7 * wordSize r := by
  rw [size, sizeFor, toNat_shown_pointerSize h8, leadSize]

private theorem signedAt_wordPlace (h8 : 8 ≤ r.size) :
    r.signedAt (wordPlace (shown r).pointerSize 0) (shown r).pointerSize =
      .ofInt (signedWord r 0) := by
  rw [Region.signedAt, wordPlace, toNat_shown_pointerSize h8]
  rfl

section

variable (h8 : 8 ≤ r.size) (hword : IsWordSize (shown r).pointerSize)
  (hsize : 8 + 7 * wordSize r ≤ r.size)

include h8 hword hsize

/-- A word that lies in the region fits a word of the machine. -/
theorem toNat_wordAt_wordPlace (hi : index < 7) :
    (r.wordAt (wordPlace (shown r).pointerSize index) (shown r).pointerSize).toNat =
      unsignedWord r index := by
  have hle : (shown r).size ≤ r.size := by rwa [size_shown h8]
  rw [Region.toNat_wordAt hword (Nat.le_trans (wordPlace_le hi) hle), wordPlace,
    toNat_shown_pointerSize h8, leadSize, unsignedWord]

/-- The highest bit of a word is its sign. -/
theorem signedWord_nonneg_iff :
    0 ≤ signedWord r 0 ↔ unsignedWord r 0 < LittleEndian.limit (wordSize r) / 2 := by
  have hlt : unsignedWord r 0 < LittleEndian.limit (wordSize r) :=
    Region.natAt_lt (by rw [Nat.zero_mul]; omega)
  have heven := hword.limit_even
  rw [toNat_shown_pointerSize h8] at heven
  have hneg := Int.bmod_neg_iff (m := LittleEndian.limit (wordSize r)) (x := unsignedWord r 0)
    (by omega) (by omega)
  rw [signedWord]
  omega

private theorem signedWord_of_nonneg (hcount : 0 ≤ signedWord r 0) :
    signedWord r 0 = unsignedWord r 0 := by
  have hlt := (signedWord_nonneg_iff h8 hword hsize).mp hcount
  exact Int.bmod_eq_of_le_mul_two (by omega) (by omega)

private theorem tables_shown : (shown r).tables = tableWords r := by
  have hstart (index : Nat) (hi : index < 7) := toNat_wordAt_wordPlace h8 hword hsize hi
  show _ = [(TableKind.functionName, unsignedWord r 2), (.compilationUnit, unsignedWord r 3),
    (.file, unsignedWord r 4), (.programCounter, unsignedWord r 5),
    (.function, unsignedWord r 6)]
  rw [← hstart 2 (by decide), ← hstart 3 (by decide), ← hstart 4 (by decide),
    ← hstart 5 (by decide), ← hstart 6 (by decide)]
  rfl

private theorem isShownBy_shown (hcount : 0 ≤ signedWord r 0) : (shown r).IsShownBy r where
  magic := toNat_shown_magic (by omega)
  minInstructionSize := UInt8.toNat_ofNat_of_lt' (Region.natAt_lt (by omega))
  pointerSize := toNat_shown_pointerSize h8
  functionCount := by
    rw [signedWord_of_nonneg h8 hword hsize hcount]
    exact congrArg _ (toNat_wordAt_wordPlace h8 hword hsize (by decide))
  fileCount := toNat_wordAt_wordPlace h8 hword hsize (by decide)
  nameTableOffset := toNat_wordAt_wordPlace h8 hword hsize (by decide)
  cuTableOffset := toNat_wordAt_wordPlace h8 hword hsize (by decide)
  fileTableOffset := toNat_wordAt_wordPlace h8 hword hsize (by decide)
  pcTableOffset := toNat_wordAt_wordPlace h8 hword hsize (by decide)
  functionTableOffset := toNat_wordAt_wordPlace h8 hword hsize (by decide)

end

private theorem IsAcceptable.isShownBy_shown (ha : IsAcceptable r) : (shown r).IsShownBy r := by
  have h8 := ha.eight_le_size
  have hword : IsWordSize (shown r).pointerSize := by
    rw [isWordSize_iff_toNat, toNat_shown_pointerSize h8]
    exact ha.isWordSize
  exact Header.isShownBy_shown h8 hword ha.words_le_size ha.count_nonneg

/-- The starts of the tables are checked one after another. -/
theorem verdict_startCheck (tables : List (TableKind × Nat)) (size : Nat) (h : Header) :
    (match tables.find? fun table ↦ size ≤ table.2 with
      | some (kind, start) => .error (.offsetOutOfBounds kind start size)
      | none => .ok h) = HeaderCheck.verdict (tables.map (startCheck size)) h := by
  have hcheck : (!·.isMet) ∘ startCheck size = fun table ↦ decide (size ≤ table.2) := by
    funext table
    simp only [Function.comp_apply, startCheck, ← decide_not, Nat.not_lt]
  rw [HeaderCheck.verdict, List.find?_map, hcheck]
  cases tables.find? fun table ↦ size ≤ table.2 with
  | some table => rfl
  | none => rfl

open HeaderCheck in
/-- Decoding is making the checks in their order. -/
theorem decode_eq_verdict (r : Region) : decode r = verdict (checks r) (shown r) := by
  rw [decode_eq, checks]
  simp only [List.cons_append, List.nil_append]
  refine ite_eq_verdict ?_ fun h4 ↦ ?_
  · rw [decide_eq_false_iff_not, Nat.not_le]
  refine ite_eq_verdict ?_ fun _ ↦ ?_
  · rw [decide_eq_false_iff_not, ← shown_magic_eq_iff (Nat.le_of_not_lt h4)]
  refine ite_eq_verdict ?_ fun h8 ↦ ?_
  · rw [decide_eq_false_iff_not, Nat.not_le, leadSize]
  -- From here on the declared size of a word is a byte of the region.
  replace h8 : 8 ≤ r.size := Nat.le_of_not_lt h8
  have hp := toNat_shown_pointerSize h8
  rw [← hp, UInt8.ofNat_toNat, hp]
  refine ite_eq_verdict ?_ fun hword ↦ ?_
  · rw [decide_eq_false_iff_not, isWordSize_iff_toNat, hp]
  rw [size_shown h8]
  refine ite_eq_verdict ?_ fun hsize ↦ ?_
  · rw [decide_eq_false_iff_not, Nat.not_le]
  replace hword := Decidable.of_not_not hword
  replace hsize := Nat.le_of_not_lt hsize
  have hcount : (shown r).functionCount.toNat = unsignedWord r 0 :=
    toNat_wordAt_wordPlace h8 hword hsize (by decide)
  rw [signedAt_wordPlace h8, hcount]
  refine ite_eq_verdict ?_ fun _ ↦ ?_
  · rw [decide_eq_false_iff_not, signedWord_nonneg_iff h8 hword hsize, Nat.not_lt]
  rw [tableOutside?, tables_shown h8 hword hsize]
  exact verdict_startCheck _ _ _

end Header

namespace Region

variable {r : Region} {e : LayoutError}

/-- Without a header no question is answered. -/
theorem ask_of_error {α : Type} (h : Header.decode r = .error e)
    (query : Image → Outcome SymbolError α) : r.ask query = .error (.layout e) := by
  rw [ask, Image.ofRegion_eq_error_iff.mpr h]

private theorem audit_of_error (h : Header.decode r = .error e) : r.audit = .error e := by
  rw [audit, Image.ofRegion_eq_error_iff.mpr h]
  rfl

end Region

namespace Header

/-- Which bytes are a header. The bytes are accepted exactly if the first word is the magic, the
size of a word is declared as four or eight bytes, all words are there, the count is not negative
and each of the five tables starts in the region; the header then holds what the bytes say. Any
other bytes are refused for the first of these conditions that they do not meet. In particular
another magic is reported, with what stands in its place, by every question about the bytes,
whatever else is wrong with them. -/
theorem decode_of_any_bytes (r : Region) :
    (∀ h, decode r = .ok h ↔ IsAcceptable r ∧ h.IsShownBy r) ∧
      (∀ e, decode r = .error e ↔
        ∃ front c back, checks r = front ++ c :: back ∧ (∀ d ∈ front, d.isMet = true) ∧
          c.isMet = false ∧ c.failure = e) ∧
      ∀ found : UInt32, 4 ≤ r.size → found.toNat = r.natAt 0 4 → found.toNat ≠ 0xfffffffa →
        (∀ name, r.resolve name = .error (.layout (.invalidMagic found 0xfffffffa))) ∧
          r.symbols = .error (.layout (.invalidMagic found 0xfffffffa)) ∧
          r.index = .error (.layout (.invalidMagic found 0xfffffffa)) ∧
          (∀ pc, r.functionAt pc = .error (.layout (.invalidMagic found 0xfffffffa))) ∧
          r.audit = .error (.invalidMagic found 0xfffffffa) := by
  have hrefused : ∀ e, decode r = .error e ↔
      ∃ front c back, checks r = front ++ c :: back ∧ (∀ d ∈ front, d.isMet = true) ∧
        c.isMet = false ∧ c.failure = e := by
    intro e
    rw [decode_eq_verdict, HeaderCheck.verdict_eq_error_iff]
  refine ⟨?_, hrefused, ?_⟩
  · intro h
    rw [decode_eq_verdict, HeaderCheck.verdict_eq_ok_iff, forall_isMet_iff]
    constructor
    · rintro ⟨ha, rfl⟩
      exact ⟨ha, ha.isShownBy_shown⟩
    · rintro ⟨ha, hr⟩
      exact ⟨ha, ha.isShownBy_shown.unique hr⟩
  · intro found h4 hfound hmagic
    have hnat : UInt32.ofNat (r.natAt 0 4) = found := by
      rw [← hfound, UInt32.ofNat_toNat]
    have hdecode : decode r = .error (.invalidMagic found 0xfffffffa) := by
      refine (hrefused _).mpr ⟨[_], _, _, rfl, ?_, ?_, ?_⟩
      · exact List.forall_mem_singleton.mpr (decide_eq_true h4)
      · rw [hfound] at hmagic
        exact decide_eq_false hmagic
      · rw [hnat]
    have hask {α : Type} (query : Image → Outcome SymbolError α) :=
      Region.ask_of_error hdecode query
    exact ⟨fun _ ↦ hask _, hask _, hask _, fun _ ↦ hask _, Region.audit_of_error hdecode⟩

/-- Five bytes of which the first four are no magic. There is no room for a header either. -/
def foreign : Region where
  bytes := ⟨#[0x7f, 0x45, 0x4c, 0x46, 2]⟩
  size_lt := by decide

/-- What stands in the place of the magic is reported, not the missing room. -/
theorem decode_of_any_bytes_foreign :
    4 ≤ foreign.size ∧ (0x464c457f : UInt32).toNat = foreign.natAt 0 4 ∧
      (0x464c457f : UInt32).toNat ≠ 0xfffffffa ∧
      foreign.resolve "f" = .error (.layout (.invalidMagic 0x464c457f 0xfffffffa)) ∧
      foreign.audit = .error (.invalidMagic 0x464c457f 0xfffffffa) := by
  have h4 : 4 ≤ foreign.size := by decide
  have hfound : (0x464c457f : UInt32).toNat = foreign.natAt 0 4 := by decide
  have hmagic : (0x464c457f : UInt32).toNat ≠ 0xfffffffa := by decide
  obtain ⟨-, -, hforeign⟩ := decode_of_any_bytes foreign
  obtain ⟨hresolve, -, -, -, haudit⟩ := hforeign _ h4 hfound hmagic
  exact ⟨h4, hfound, hmagic, hresolve "f", haudit⟩

end Header

end FuncMeta
