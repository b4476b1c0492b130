import FuncMeta.Proofs.Image.Naming
import FuncMeta.Symbol.Index
import FuncMeta.Symbol

/-!
# Listings of an image

A listing holds the symbols of the records from one on, up to the first record that cannot be
decoded, and the failure of that record if there is one. Every image has exactly one, and each loop
over the records is a function of it. Main statements: `exists_listing`, `resolveAmong_eq`,
`mapM_symbol_eq` and `indexAmong_eq`.
-/

namespace FuncMeta

/-- The entry of the first symbol with a name. -/
def entryOf? (symbols : List Symbol) (name : String) : Option Address :=
  (symbols.find? fun s ↦ s.name = name).map Symbol.address

/-- The value of a computation that a failure may have ended. -/
def endedBy {α : Type} (failure? : Option LayoutError) (a : α) : Outcome LayoutError α :=
  match failure? with
  | some e => .error e
  | none => .ok a

/-- What some symbols answer for a name: the first entry of the name, or else the failure that ended
them, or else that there is no such name. -/
def answer (symbols : List Symbol) (failure? : Option LayoutError) (name : String) :
    Outcome SymbolError Address :=
  match entryOf? symbols name, failure? with
  | some address, _ => .ok address
  | none, some e => .error (.layout e)
  | none, none => .error (.notFound name)

/-- The entry of a name is that of the first symbol if it has the name, or else one behind it. -/
theorem entryOf?_cons (s : Symbol) (symbols : List Symbol) (name : String) :
    entryOf? (s :: symbols) name =
      if s.name = name then some s.address else entryOf? symbols name := by
  rw [entryOf?, entryOf?, List.find?_cons]
  by_cases h : s.name = name
  · simp [h]
  · simp [h]

/-- The entry of a name is one of the symbols in front if they have the name. -/
theorem entryOf?_append (symbols more : List Symbol) (name : String) :
    entryOf? (symbols ++ more) name = (entryOf? symbols name).or (entryOf? more name) := by
  rw [entryOf?, entryOf?, entryOf?, List.find?_append, Option.map_or]

/-- The first symbol answers for its own name, and those behind it for all others. -/
theorem answer_cons (s : Symbol) (symbols : List Symbol) (failure? : Option LayoutError)
    (name : String) :
    answer (s :: symbols) failure? name =
      if s.name = name then .ok s.address else answer symbols failure? name := by
  unfold answer
  rw [entryOf?_cons]
  by_cases h : s.name = name
  · rw [if_pos h, if_pos h]
  · rw [if_neg h, if_neg h]

/-- A failure that ends a computation is no halt. -/
theorem endedBy_ne_halt {α : Type} (failure? : Option LayoutError) (a : α) :
    endedBy failure? a ≠ .halt := by
  cases failure? <;> exact nofun

/-- Symbols answer every name without a halt. -/
theorem answer_ne_halt (symbols : List Symbol) (failure? : Option LayoutError) (name : String) :
    answer symbols failure? name ≠ .halt := by
  unfold answer
  cases entryOf? symbols name <;> cases failure? <;> exact nofun

namespace Image

/-- The symbol of the record at an index. -/
def symbolAt (t : Image) (index : Nat) : Outcome LayoutError Symbol := do
  let record ← t.record index t.count
  t.symbol record

/-- The symbols of `remaining` records from `index` on, up to the first one that fails. -/
inductive Listing (t : Image) :
    (remaining index : Nat) → List Symbol → Option LayoutError → Prop where
  /-- No record is left. -/
  | done {index : Nat} : Listing t 0 index [] none
  /-- The next record cannot be decoded. -/
  | failed {remaining index : Nat} {e : LayoutError} (h : t.symbolAt index = .error e) :
    Listing t (remaining + 1) index [] (some e)
  /-- The next record is decoded. -/
  | symbol {remaining index : Nat} {s : Symbol} {symbols : List Symbol}
    {failure? : Option LayoutError} (h : t.symbolAt index = .ok s)
    (rest : Listing t remaining (index + 1) symbols failure?) :
    Listing t (remaining + 1) index (s :: symbols) failure?

variable {t : Image} {remaining index : Nat} {symbols : List Symbol}
  {failure? : Option LayoutError}

/-- The symbol of a record has its name and its entry. -/
theorem symbol_eq_ok_iff {record : Record} {s : Symbol} :
    t.symbol record = .ok s ↔
      t.name record.metadataOffset = .ok s.name ∧ record.entry = s.address := by
  rw [Image.symbol]
  simp only [Outcome.bind_eq_ok_iff, Outcome.pure_def, Outcome.ok.injEq]
  constructor
  · rintro ⟨name, hname, rfl⟩
    exact ⟨hname, rfl⟩
  · rintro ⟨hname, hentry⟩
    exact ⟨s.name, hname, by rw [hentry]⟩

/-- The symbol of a record fails exactly as its name does. -/
theorem symbol_eq_error_iff {record : Record} {e : LayoutError} :
    t.symbol record = .error e ↔ t.name record.metadataOffset = .error e := by
  rw [Image.symbol]
  simp only [Outcome.bind_eq_error_iff, Outcome.pure_def, reduceCtorEq, and_false, exists_const,
    or_false]

/-- Reading the symbol of a record does not halt. -/
theorem symbol_ne_halt (t : Image) (record : Record) : t.symbol record ≠ .halt := by
  rw [Image.symbol]
  intro h
  rcases Outcome.bind_eq_halt_iff.mp h with h | ⟨name, -, h⟩
  · exact name_ne_halt _ _ h
  · cases h

private theorem symbolAt_ne_halt (t : Image) (index : Nat) : t.symbolAt index ≠ .halt := by
  rw [symbolAt]
  intro h
  rcases Outcome.bind_eq_halt_iff.mp h with h | ⟨record, -, h⟩
  · exact record_ne_halt _ _ _ h
  · exact symbol_ne_halt _ _ h

/-- A decoded record is the next one of the walk. -/
theorem recordsFrom_of_record {record : Record} (h : t.record index t.count = .ok record) :
    t.recordsFrom (remaining + 1) index =
      (record :: (t.recordsFrom remaining (index + 1)).1,
        (t.recordsFrom remaining (index + 1)).2) := by
  rw [recordsFrom, h]

private theorem recordsFrom_of_error {e : LayoutError} (h : t.record index t.count = .error e) :
    t.recordsFrom (remaining + 1) index = ([], .error e) := by
  rw [recordsFrom, h]

/-- Every image has a listing: no record makes the machine halt. -/
theorem exists_listing (t : Image) (remaining index : Nat) :
    ∃ symbols failure?, t.Listing remaining index symbols failure? := by
  induction remaining generalizing index with
  | zero => exact ⟨[], none, .done⟩
  | succ remaining ih =>
    cases h : t.symbolAt index with
    | ok s =>
      obtain ⟨symbols, failure?, rest⟩ := ih (index + 1)
      exact ⟨s :: symbols, failure?, .symbol h rest⟩
    | error e => exact ⟨[], some e, .failed h⟩
    | halt => exact absurd h (symbolAt_ne_halt t index)

namespace Listing

/-- Records that are all decoded make a listing without a failure. -/
theorem of_symbolAt (h : ∀ i, (hi : i < symbols.length) → t.symbolAt (index + i) = .ok symbols[i]) :
    t.Listing symbols.length index symbols none := by
  induction symbols generalizing index with
  | nil => exact .done
  | cons s symbols ih =>
    refine .symbol (h 0 (Nat.succ_pos _)) (ih fun i hi ↦ ?_)
    rw [Nat.add_assoc, Nat.add_comm 1]
    exact h (i + 1) (Nat.succ_lt_succ hi)

/-- A listing without a failure has all records. -/
theorem length_eq (h : t.Listing remaining index symbols none) : symbols.length = remaining := by
  generalize hf : (none : Option LayoutError) = failure? at h
  induction h with
  | done => rfl
  | failed => cases hf
  | symbol _ _ ih => rw [List.length_cons, ih hf]

/-- The symbols of a listing are those of the records in order. -/
theorem symbolAt_add (h : t.Listing remaining index symbols failure?) (i : Nat)
    (hi : i < symbols.length) : t.symbolAt (index + i) = .ok symbols[i] := by
  induction h generalizing i with
  | done => cases hi
  | failed => cases hi
  | symbol hs _ ih =>
    cases i with
    | zero => exact hs
    | succ i =>
      have hstep := ih i (Nat.lt_of_succ_lt_succ hi)
      rwa [Nat.add_assoc, Nat.add_comm 1] at hstep

/-- The failure of a listing is that of the record behind its symbols. -/
theorem symbolAt_length {e : LayoutError} (h : t.Listing remaining index symbols (some e)) :
    symbols.length < remaining ∧ t.symbolAt (index + symbols.length) = .error e := by
  generalize hf : some e = failure? at h
  induction h with
  | done => cases hf
  | failed hs =>
    cases hf
    exact ⟨Nat.succ_pos _, hs⟩
  | symbol _ _ ih =>
    obtain ⟨hlt, hs⟩ := ih hf
    rw [List.length_cons]
    rw [Nat.add_assoc, Nat.add_comm 1] at hs
    exact ⟨Nat.succ_lt_succ hlt, hs⟩

/-- A search for a name answers from the listing. -/
theorem resolveAmong_eq (h : t.Listing remaining index symbols failure?) (name : String) :
    t.resolveAmong name (t.recordsFrom remaining index).2 (t.recordsFrom remaining index).1 =
      answer symbols failure? name := by
  induction h with
  | done => rfl
  | failed hs =>
    rcases Outcome.bind_eq_error_iff.mp hs with hrecord | ⟨record, hrecord, hname⟩
    · rw [recordsFrom_of_error hrecord]
      rfl
    · rw [recordsFrom_of_record hrecord, resolveAmong, symbol_eq_error_iff.mp hname]
      rfl
  | symbol hs _ ih =>
    obtain ⟨record, hrecord, hsymbol⟩ := Outcome.bind_eq_ok_iff.mp hs
    obtain ⟨hname, hentry⟩ := symbol_eq_ok_iff.mp hsymbol
    rw [recordsFrom_of_record hrecord, resolveAmong, hname, Outcome.mapError_ok, Outcome.ok_bind,
      answer_cons, ih, hentry]
    rfl

/-- The list of all symbols is the listing, unless a failure ended it. -/
theorem mapM_symbol_eq (h : t.Listing remaining index symbols failure?) :
    (do
      let listed ← (t.recordsFrom remaining index).1.mapM t.symbol
      (t.recordsFrom remaining index).2
      return listed : Outcome LayoutError (List Symbol)) = endedBy failure? symbols := by
  induction h with
  | done => rfl
  | failed hs =>
    rcases Outcome.bind_eq_error_iff.mp hs with hrecord | ⟨record, hrecord, hsymbol⟩
    · rw [recordsFrom_of_error hrecord]
      rfl
    · rw [recordsFrom_of_record hrecord, List.mapM_cons, hsymbol]
      rfl
  | @symbol remaining index s symbols failure? hs _ ih =>
    obtain ⟨record, hrecord, hsymbol⟩ := Outcome.bind_eq_ok_iff.mp hs
    rw [recordsFrom_of_record hrecord, List.mapM_cons, hsymbol, Outcome.ok_bind]
    have hcons : endedBy failure? (s :: symbols) = List.cons s <$> endedBy failure? symbols := by
      cases failure? <;> rfl
    rw [hcons, ← ih]
    simp only [bind_assoc, map_bind, pure_bind, map_pure]

/-- The index of all symbols is the one of the listing, unless a failure ended it. -/
theorem indexAmong_eq (h : t.Listing remaining index symbols failure?) (x : SymbolIndex) :
    (do
      let full ← t.indexAmong x (t.recordsFrom remaining index).1
      (t.recordsFrom remaining index).2
      return full : Outcome LayoutError SymbolIndex) =
      endedBy failure? (symbols.foldl SymbolIndex.insert x) := by
  induction h generalizing x with
  | done => rfl
  | failed hs =>
    rcases Outcome.bind_eq_error_iff.mp hs with hrecord | ⟨record, hrecord, hsymbol⟩
    · rw [recordsFrom_of_error hrecord]
      rfl
    · rw [recordsFrom_of_record hrecord, indexAmong, hsymbol]
      rfl
  | symbol hs _ ih =>
    obtain ⟨record, hrecord, hsymbol⟩ := Outcome.bind_eq_ok_iff.mp hs
    rw [recordsFrom_of_record hrecord, indexAmong, hsymbol, Outcome.ok_bind]
    exact ih _

/-- The walk along the symbols is the listing. -/
theorem walkAmong_eq (h : t.Listing remaining index symbols failure?) :
    t.walkAmong (t.recordsFrom remaining index).2 (t.recordsFrom remaining index).1 =
      (symbols, endedBy failure? ()) := by
  induction h with
  | done => rfl
  | failed hs =>
    rcases Outcome.bind_eq_error_iff.mp hs with hrecord | ⟨record, hrecord, hsymbol⟩
    · rw [recordsFrom_of_error hrecord]
      rfl
    · rw [recordsFrom_of_record hrecord, walkAmong, hsymbol]
      rfl
  | symbol hs _ ih =>
    obtain ⟨record, hrecord, hsymbol⟩ := Outcome.bind_eq_ok_iff.mp hs
    rw [recordsFrom_of_record hrecord, walkAmong, hsymbol]
    dsimp only
    rw [ih]

end Listing

end Image

end FuncMeta
