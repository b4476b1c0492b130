import FuncMeta.Command.Answer
import FuncMeta.Proofs.Image.Failure
import FuncMeta.Proofs.Symbol.Agreement
import FuncMeta.Log
import FuncMeta.Command.Run
import FuncMeta.Address

/-!
# Batches of names and exit codes

A batch is answered from the listing of the image. A search for each name sees a record that cannot
be decoded only when it looks for a name that is not listed in front of it; the index sees it in any
case. Both give the same results for names if they give any.

A run succeeds exactly when its query has an answer that can be shown and is good enough. An answer
can be shown if the range of its source has a size, as every range of a blob has. Main statements:
`Input.outcome_resolutions`, `Input.outcome_resolutions_indexed`, `exists_present_eq_ok`,
`exitCode_run_eq_zero_iff` and `run_of_failure`.
-/

namespace FuncMeta

/-- What becomes of a name among some symbols: the entry of the first one with that name, or the
text that there is none. -/
def Resolution.among (symbols : List Symbol) (name : String) : Resolution where
  name := name
  address := entryOf? symbols name
  failure := if (entryOf? symbols name).isSome then none else some s!"Symbol not found: {name}"

/-- The listing of the image that a region holds. -/
def Region.Lists (r : Region) (symbols : List Symbol) (failure? : Option LayoutError) : Prop :=
  ∃ t, Image.ofRegion r = .ok t ∧ t.Listing t.count 0 symbols failure?

/-- The listing of an image is the only one of its region. -/
theorem Region.lists_iff {r : Region} {t : Image} {symbols symbols' : List Symbol}
    {failure? failure?' : Option LayoutError} (ht : Image.ofRegion r = .ok t)
    (hlist : t.Listing t.count 0 symbols failure?) :
    r.Lists symbols' failure?' ↔ symbols' = symbols ∧ failure?' = failure? := by
  constructor
  · rintro ⟨t', ht', hlist'⟩
    obtain rfl : t = t' := Except.ok.inj (ht.symm.trans ht')
    obtain ⟨rfl, hended⟩ := Prod.mk.inj (hlist.walkAmong_eq.symm.trans hlist'.walkAmong_eq)
    refine ⟨rfl, ?_⟩
    cases failure? <;> cases failure?' <;> cases hended <;> rfl
  · rintro ⟨rfl, rfl⟩
    exact ⟨t, ht, hlist⟩

namespace Resolution

variable {symbols : List Symbol} {name : String}

private theorem of_ok {address : Address} (h : entryOf? symbols name = some address) :
    of name (.ok address) = among symbols name := by
  rw [of, among, h]
  rfl

private theorem of_notFound (h : entryOf? symbols name = none) :
    of name (.error (.notFound name)) = among symbols name := by
  rw [of, among, h]
  rfl

/-- An index of some symbols answers as the symbols do. -/
theorem of_resolve_ofSymbols (symbols : List Symbol) (name : String) :
    of name ((SymbolIndex.ofSymbols symbols).resolve name) = among symbols name := by
  rw [SymbolIndex.resolve, SymbolIndex.get?_ofSymbols]
  cases h : entryOf? symbols name with
  | some address => exact of_ok h
  | none => exact of_notFound h

end Resolution

namespace Input

variable {i : Input} {t : Image} {symbols : List Symbol} {failure? : Option LayoutError}
  {names : List String} {name : String} {e : LayoutError}

section

variable (ht : Image.ofRegion i.blob.region = .ok t)
  (hlist : t.Listing t.count 0 symbols failure?)

include ht hlist

/-- A search for a listed name answers from the listing, whatever comes behind it. -/
theorem outcome_searchName_of_mem (hname : name ∈ symbols.map Symbol.name) :
    (i.searchName name).outcome = .ok (.among symbols name) := by
  obtain ⟨address, haddress⟩ := Option.isSome_iff_exists.mp (isSome_entryOf?_iff.mpr hname)
  have hresolve : i.blob.region.resolve name = .ok address := by
    rw [Region.resolve, Region.ask_of_ok ht, Image.resolve_eq hlist]
    unfold answer
    rw [haddress]
  rw [searchName, hresolve]
  exact congrArg Outcome.ok (Resolution.of_ok haddress)

/-- A search for any other name fails as the listing does, or finds that the name is missing. -/
theorem outcome_searchName_of_notMem (hname : name ∉ symbols.map Symbol.name) :
    (i.searchName name).outcome =
      (endedBy failure? (Resolution.among symbols name)).mapError fun e ↦ .resolve (.layout e) := by
  have hnone : entryOf? symbols name = none := by
    apply Option.not_isSome_iff_eq_none.mp
    rwa [isSome_entryOf?_iff]
  have hresolve : i.blob.region.resolve name = answer symbols failure? name := by
    rw [Region.resolve, Region.ask_of_ok ht, Image.resolve_eq hlist]
  rw [searchName, hresolve]
  unfold answer
  rw [hnone]
  cases failure? with
  | some e => rfl
  | none => exact congrArg Outcome.ok (Resolution.of_notFound hnone)

/-- Listed names are all answered. -/
theorem outcome_mapM_searchName_of_forall
    (hnames : ∀ name ∈ names, name ∈ symbols.map Symbol.name) :
    (names.mapM i.searchName).outcome = .ok (names.map (Resolution.among symbols)) := by
  rw [Told.outcome_mapM]
  induction names with
  | nil => rfl
  | cons name names ih =>
    obtain ⟨hname, hrest⟩ := List.forall_mem_cons.mp hnames
    rw [List.mapM_cons, outcome_searchName_of_mem ht hlist hname, Outcome.ok_bind, ih hrest]
    rfl

/-- If the listing ended early, a name that is not listed fails the batch, wherever it stands. -/
theorem outcome_mapM_searchName_of_exists (hfailure : failure? = some e)
    (hname : ∃ name ∈ names, name ∉ symbols.map Symbol.name) :
    (names.mapM i.searchName).outcome = .error (.resolve (.layout e)) := by
  subst hfailure
  rw [Told.outcome_mapM]
  induction names with
  | nil =>
    obtain ⟨_, hmem, -⟩ := hname
    cases hmem
  | cons first names ih =>
    rw [List.mapM_cons]
    -- A listed name is answered and leaves the failure to a later one.
    by_cases hfirst : first ∈ symbols.map Symbol.name
    · obtain ⟨name, hmem, hmissing⟩ := hname
      have hrest : name ∈ names := by
        rcases List.mem_cons.mp hmem with rfl | hrest
        · exact absurd hfirst hmissing
        · exact hrest
      rw [outcome_searchName_of_mem ht hlist hfirst, Outcome.ok_bind, ih ⟨name, hrest, hmissing⟩]
      rfl
    · rw [outcome_searchName_of_notMem ht hlist hfirst]
      rfl

/-- If the listing is complete, every name is answered or missing. -/
theorem outcome_mapM_searchName_of_none (hfailure : failure? = none) :
    (names.mapM i.searchName).outcome = .ok (names.map (Resolution.among symbols)) := by
  subst hfailure
  rw [Told.outcome_mapM]
  induction names with
  | nil => rfl
  | cons name names ih =>
    have hsearch : (i.searchName name).outcome = .ok (.among symbols name) := by
      by_cases hname : name ∈ symbols.map Symbol.name
      · exact outcome_searchName_of_mem ht hlist hname
      · exact outcome_searchName_of_notMem ht hlist hname
    rw [List.mapM_cons, hsearch, Outcome.ok_bind, ih]
    rfl

/-- A search for each name gives the result of each, unless the listing ended early and one of the
names is not in it. -/
theorem outcome_resolutions (names : List String) :
    (i.resolutions names false).outcome =
      if ∀ name ∈ names, name ∈ symbols.map Symbol.name then
        .ok (names.map (Resolution.among symbols))
      else
        (endedBy failure? (names.map (Resolution.among symbols))).mapError fun e ↦
          .resolve (.layout e) := by
  show (names.mapM i.searchName).outcome = _
  split
  · next hall => exact outcome_mapM_searchName_of_forall ht hlist hall
  · next hnot =>
    cases failure? with
    | none => exact outcome_mapM_searchName_of_none ht hlist rfl
    | some e =>
      apply outcome_mapM_searchName_of_exists ht hlist rfl
      simpa using hnot

/-- Through an index the result of each name is given, unless the listing ended early. Room is made
for the index beforehand. -/
theorem outcome_resolutions_indexed (names : List String) :
    (i.resolutions names true).outcome = SymbolIndex.reserve t.count >>= fun _ ↦
      (endedBy failure? (names.map (Resolution.among symbols))).mapError fun e ↦
        .index (.layout e) := by
  have hmap (f : String → Resolution) (hf : ∀ name, f name = .among symbols name) :
      names.map f = names.map (Resolution.among symbols) :=
    List.map_congr_left fun name _ ↦ hf name
  rw [resolutions, if_pos rfl, Told.outcome_bind]
  show (i.blob.region.index.mapError Failure.index >>= _) = _
  rw [Region.index, Region.ask_of_ok ht, Image.index_eq hlist, SymbolIndex.reserve,
    SymbolIndex.reserve]
  split
  · cases failure? with
    | some e => rfl
    | none =>
      exact congrArg Outcome.ok (hmap _ fun name ↦ Resolution.of_resolve_ofSymbols symbols name)
  · rfl

end

/-- Without a header the first search fails. -/
theorem outcome_resolutions_of_error (he : Image.ofRegion i.blob.region = .error e)
    (hnames : names ≠ []) :
    (i.resolutions names false).outcome = .error (.resolve (.layout e)) := by
  obtain ⟨name, rest, rfl⟩ := List.exists_cons_of_ne_nil hnames
  have hsearch : (i.searchName name).outcome = .error (.resolve (.layout e)) := by
    rw [searchName, Region.resolve, Region.ask, he]
    rfl
  show (List.mapM i.searchName (name :: rest)).outcome = _
  rw [Told.outcome_mapM, List.mapM_cons, hsearch]
  rfl

/-- Without a header there is no index. -/
theorem outcome_resolutions_indexed_of_error (he : Image.ofRegion i.blob.region = .error e) :
    (i.resolutions names true).outcome = .error (.index (.layout e)) := by
  rw [resolutions, if_pos rfl, Told.outcome_bind]
  show (i.blob.region.index.mapError Failure.index >>= _) = _
  rw [Region.index, Region.ask, he]
  rfl

end Input

/-- An answer whose source does not stop before it starts can be shown. -/
theorem Presentation.exists_present_eq_ok {ε : Type} (p : Presentation) {a : Answer}
    (h : (sourceOf a).range.start ≤ (sourceOf a).range.stop) :
    ∃ lines, (p.present a : Outcome ε (List String)) = .ok lines := by
  have hsize := AddressRange.size_of_le (ε := ε) h
  have hannounce : ∃ announced, (p.announce (sourceOf a) : Outcome ε (List String)) =
      .ok announced := by
    rw [announce, TextLayout.source, hsize]
    split
    · exact ⟨_, rfl⟩
    · exact ⟨_, rfl⟩
  obtain ⟨announced, hannounced⟩ := hannounce
  rw [present, hannounced]
  split
  · exact ⟨_, rfl⟩
  · exact ⟨_, rfl⟩

/-- A report on names is good enough exactly if none is missing. -/
theorem Answer.failure?_resolve_eq_none_iff {report : ResolveReport} :
    (Answer.resolve report).failure? = none ↔ report.unresolved = 0 := by
  rw [failure?]
  split
  · next h => exact iff_of_true rfl h
  · next h => exact iff_of_false nofun h

/-- An answer with names that are missing is a failure, which counts them. -/
theorem Answer.failure?_resolve_of_ne {report : ResolveReport} (h : report.unresolved ≠ 0) :
    (Answer.resolve report).failure? =
      some (.unresolved report.unresolved report.results.length) := by
  rw [failure?, if_neg h]

/-- The text of missing names. -/
theorem Failure.message_unresolved (missing total : Nat) :
    (Failure.unresolved missing total).message = s!"{missing} of {total} names unresolved" := rfl

/-- A result without a failure is the only one with exit code zero. -/
theorem Transcript.exitCode_ofResult_eq_zero_iff {log : List LogRecord} {coloured : Bool}
    {result : Outcome Failure (List String × Option Failure)} :
    (Transcript.ofResult log coloured result).exitCode = 0 ↔
      ∃ lines, result = .ok (lines, none) := by
  unfold ofResult
  split
  · next lines => exact iff_of_true rfl ⟨lines, rfl⟩
  · exact iff_of_false Nat.one_ne_zero nofun
  · exact iff_of_false Nat.one_ne_zero nofun
  · exact iff_of_false (Nat.succ_ne_zero _) nofun

namespace Command

variable {c : Command} {files : Files} {colourful : Bool} {config : Config} {a : Answer}

/-- A run comes to an answer under a configuration exactly when the configuration is loaded and the
query is answered. -/
theorem outcome_answer_eq_ok_iff :
    (c.answer files).outcome = .ok (config, a) ↔
      (c.configuration files).outcome = .ok config ∧
        (c.query.answer (c.input.check files) (c.input.openInput files config)
          config.useIndex).outcome = .ok a := by
  rw [answer]
  simp only [Told.outcome_bind, Outcome.bind_eq_ok_iff, Told.outcome_pure, Outcome.ok.injEq,
    Prod.mk.injEq]
  constructor
  · rintro ⟨_, hconfig, _, hanswer, rfl, rfl⟩
    exact ⟨hconfig, hanswer⟩
  · rintro ⟨hconfig, hanswer⟩
    exact ⟨_, hconfig, _, hanswer, rfl, rfl⟩

/-- A run succeeds exactly when its log can be set up and its query has an answer that can be shown
and is good enough. -/
theorem exitCode_run_eq_zero_iff :
    (c.run files colourful).exitCode = 0 ↔
      ∃ v config a lines, c.verbosity = .ok v ∧ (c.answer files).outcome = .ok (config, a) ∧
        ((c.presentation config (colourful && !c.noColor)).present a :
          Outcome Failure (List String)) = .ok lines ∧ a.failure? = none := by
  rw [run]
  cases hverbosity : c.verbosity with
  | error f => exact iff_of_false Nat.one_ne_zero (by rintro ⟨v, _, _, _, ⟨⟩, _⟩)
  | ok v =>
    dsimp only
    rw [Transcript.exitCode_ofResult_eq_zero_iff]
    simp only [outcome, Outcome.bind_eq_ok_iff, Outcome.pure_def, Outcome.ok.injEq, Prod.mk.injEq]
    constructor
    · rintro ⟨_, ⟨config, a⟩, hanswer, lines, hlines, rfl, hfailure⟩
      exact ⟨v, config, a, lines, rfl, hanswer, hlines, hfailure⟩
    · rintro ⟨_, config, a, lines, -, hanswer, hlines, hfailure⟩
      exact ⟨lines, (config, a), hanswer, lines, hlines, rfl, hfailure⟩

/-- An answer that can be shown but is not good enough is shown, and told to be a failure. -/
theorem run_of_failure {v : Verbosity} {lines : List String} {f : Failure}
    (hverbosity : c.verbosity = .ok v) (hanswer : (c.answer files).outcome = .ok (config, a))
    (hlines : ((c.presentation config (colourful && !c.noColor)).present a :
      Outcome Failure (List String)) = .ok lines)
    (hfailure : a.failure? = some f) :
    c.run files colourful =
      { output := Transcript.outputOf lines
        complaint := Transcript.complaintOf f (colourful && !c.noColor)
        log := v.select (c.answer files).log
        exitCode := 1 } := by
  have houtcome : c.outcome (colourful && !c.noColor) (c.answer files).outcome =
      .ok (lines, some f) := by
    rw [outcome, hanswer, Outcome.ok_bind]
    dsimp only
    rw [hlines, hfailure]
    rfl
  rw [run, hverbosity]
  dsimp only
  rw [houtcome]
  rfl

end Command

end FuncMeta
