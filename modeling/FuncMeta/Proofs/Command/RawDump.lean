import FuncMeta.Proofs.Command.Batch
import FuncMeta.Proofs.Manifest.RoundTrip

/-!
# Resolving names in a raw dump

A command that takes a whole file as the image opens any file whatsoever; what it comes to depends
on the listing of the image alone. Main statement: `Command.resolve_of_isRawDump`.
-/

namespace FuncMeta

namespace InputChoice

variable {c : InputChoice} {files : Files} {config : Config} {r : Region} {names : List String}
  {indexed : Bool}

/-- The choice is a whole file as the image, which is there, and a base address that is one, if one
was typed. -/
structure IsRawDump (c : InputChoice) (files : Files) (r : Region) : Prop where
  raw : c.raw = true
  sections : c.sections = []
  file : files c.path = .present r
  base : ∀ text, c.base = some text → (Address.parse? text).isSome = true

/-- A whole file as the image. -/
def rawInput (c : InputChoice) (config : Config) (r : Region) : Input where
  path := c.path
  sectionName := none
  blob := { region := r, base := (c.baseAddress config).getD .null }

/-- What resolving some names comes to, by a search for each name or through an index. -/
def resolve (c : InputChoice) (files : Files) (config : Config) (names : List String)
    (indexed : Bool) : Outcome Failure Answer :=
  ((Query.resolve names indexed).answer (c.check files) (c.openInput files config)
    config.useIndex).outcome

/-- The report on some names among the symbols of a whole file. -/
def answerAmong (c : InputChoice) (config : Config) (r : Region) (symbols : List Symbol)
    (names : List String) : Answer :=
  .resolve
    { source := (c.rawInput config r).source
      results := names.map (Resolution.among symbols) }

/-- A file that is there passes, unless a section is chosen of a whole file or the base address is
none. -/
theorem check_of_present (hfile : files c.path = .present r)
    (hsections : ¬ (c.raw = true ∧ c.sections ≠ []))
    (hbase : ∀ text, c.base = some text → (Address.parse? text).isSome = true) :
    c.check files = .ok () := by
  rw [check, hfile, if_pos (by rfl), if_neg hsections]
  cases htyped : c.base with
  | none => rfl
  | some text =>
    show (if (Address.parse? text).isSome = true then _ else _) = _
    rw [if_pos (hbase text htyped)]
    rfl

namespace IsRawDump

/-- The choice of a whole file that is there passes its check. -/
theorem check_eq (h : c.IsRawDump files r) : c.check files = .ok () :=
  check_of_present h.file (by simp [h.sections]) h.base

/-- A whole file is opened with all its bytes. -/
theorem openInput_eq (h : c.IsRawDump files r) (config : Config) :
    (c.openInput files config).outcome = .ok (c.rawInput config r) := by
  rw [openInput, h.check_eq, if_pos h.raw, openRaw, h.file]
  rfl

/-- What resolving comes to is the report of the opened file. -/
theorem resolve_eq (h : c.IsRawDump files r) (hempty : "" ∉ names) :
    c.resolve files config names indexed =
      (fun results ↦ .resolve { source := (c.rawInput config r).source, results }) <$>
        ((c.rawInput config r).resolutions names (indexed || config.useIndex)).outcome := by
  have hnone : names.any (·.isEmpty) = false := by
    rw [List.any_eq_false]
    intro name hname hisEmpty
    rw [String.isEmpty_iff] at hisEmpty
    exact hempty (hisEmpty ▸ hname)
  rw [resolve, Query.answer, hnone]
  simp only [Bool.false_eq_true, ↓reduceIte, pure_bind, Told.outcome_bind, Told.outcome_ofExcept,
    h.check_eq, h.openInput_eq, Input.resolveReport, Outcome.ofExcept_ok, Outcome.ok_bind,
    bind_assoc, Told.outcome_pure]
  rfl

variable {t : Image} {symbols : List Symbol} {failure? : Option LayoutError}

section

variable (h : c.IsRawDump files r) (hempty : "" ∉ names) (ht : Image.ofRegion r = .ok t)
  (hlist : t.Listing t.count 0 symbols failure?)

include h hempty ht hlist

/-- A search for each name reports what becomes of it, unless the listing ended early and one of the
names is not in it. -/
theorem resolve_of_search (hmode : (indexed || config.useIndex) = false) :
    c.resolve files config names indexed =
      if ∀ name ∈ names, name ∈ symbols.map Symbol.name then
        .ok (c.answerAmong config r symbols names)
      else
        (endedBy failure? (c.answerAmong config r symbols names)).mapError fun e ↦
          .resolve (.layout e) := by
  have ht' : Image.ofRegion (c.rawInput config r).blob.region = .ok t := ht
  rw [h.resolve_eq hempty, hmode, Input.outcome_resolutions ht' hlist]
  split
  · rfl
  · cases failure? <;> rfl

/-- An index reports what becomes of each name, unless the listing ended early or there is no room
for the index. -/
theorem resolve_of_index (hmode : (indexed || config.useIndex) = true) :
    c.resolve files config names indexed = SymbolIndex.reserve t.count >>= fun _ ↦
      (endedBy failure? (c.answerAmong config r symbols names)).mapError fun e ↦
        .index (.layout e) := by
  have ht' : Image.ofRegion (c.rawInput config r).blob.region = .ok t := ht
  rw [h.resolve_eq hempty, hmode, Input.outcome_resolutions_indexed ht' hlist,
    SymbolIndex.reserve]
  split
  · cases failure? <;> rfl
  · rfl

end

variable {e : LayoutError} {a : Answer}

/-- Without a header there is no report. -/
theorem exists_resolve_eq_error (h : c.IsRawDump files r) (hempty : "" ∉ names)
    (hnames : names ≠ []) (he : Image.ofRegion r = .error e) :
    ∃ f, c.resolve files config names indexed = .error f := by
  have he' : Image.ofRegion (c.rawInput config r).blob.region = .error e := he
  rw [h.resolve_eq hempty]
  cases indexed || config.useIndex with
  | false => exact ⟨_, by rw [Input.outcome_resolutions_of_error he' hnames]; rfl⟩
  | true => exact ⟨_, by rw [Input.outcome_resolutions_indexed_of_error he']; rfl⟩

section

variable (h : c.IsRawDump files r) (hempty : "" ∉ names) (hnames : names ≠ [])

include h hempty hnames

/-- Searching does not halt. It fails exactly if there is no header, or if the listing ended early
and one of the names is not in it. -/
theorem resolve_search_fails_iff (hmode : (indexed || config.useIndex) = false) :
    c.resolve files config names indexed ≠ .halt ∧
      ((∃ f, c.resolve files config names indexed = .error f) ↔
        (∃ e, Header.decode r = .error e) ∨
          ∃ symbols e, r.Lists symbols (some e) ∧
            ∃ name ∈ names, name ∉ symbols.map Symbol.name) := by
  cases hr : Image.ofRegion r with
  | error e =>
    obtain ⟨f, hf⟩ := h.exists_resolve_eq_error hempty hnames hr
    rw [hf]
    exact ⟨Outcome.error_ne_halt _,
      iff_of_true ⟨f, rfl⟩ (.inl ⟨e, Image.ofRegion_eq_error_iff.mp hr⟩)⟩
  | ok t =>
    obtain ⟨symbols, failure?, hlist⟩ := Image.exists_listing t t.count 0
    -- A region has one listing, so a listing that ended early is this one.
    simp only [h.resolve_of_search hempty hr hlist hmode, Region.lists_iff hr hlist,
      ← Image.ofRegion_eq_error_iff, hr, reduceCtorEq, exists_false, false_or]
    by_cases hall : ∀ name ∈ names, name ∈ symbols.map Symbol.name
    · rw [if_pos hall]
      refine ⟨Outcome.ok_ne_halt _, iff_of_false (by simp) ?_⟩
      rintro ⟨_, _, ⟨rfl, -⟩, name, hmem, hname⟩
      exact hname (hall name hmem)
    · rw [if_neg hall]
      refine ⟨Outcome.mapError_ne_halt (endedBy_ne_halt _ _), ?_⟩
      cases failure? with
      | none => exact iff_of_false (by simp [endedBy]) (by simp)
      | some e => exact iff_of_true ⟨_, rfl⟩ ⟨symbols, e, ⟨rfl, rfl⟩, by simpa using hall⟩

/-- If there is room for the index, indexing does not halt. It fails exactly if there is no header
or the listing ended early. -/
theorem resolve_index_fails_iff (hmode : (indexed || config.useIndex) = true)
    (hroom : ∀ t, Image.ofRegion r = .ok t → t.count ≤ SymbolIndex.maxReserved) :
    c.resolve files config names indexed ≠ .halt ∧
      ((∃ f, c.resolve files config names indexed = .error f) ↔
        (∃ e, Header.decode r = .error e) ∨ ∃ symbols e, r.Lists symbols (some e)) := by
  cases hr : Image.ofRegion r with
  | error e =>
    obtain ⟨f, hf⟩ := h.exists_resolve_eq_error hempty hnames hr
    rw [hf]
    exact ⟨Outcome.error_ne_halt _,
      iff_of_true ⟨f, rfl⟩ (.inl ⟨e, Image.ofRegion_eq_error_iff.mp hr⟩)⟩
  | ok t =>
    obtain ⟨symbols, failure?, hlist⟩ := Image.exists_listing t t.count 0
    simp only [h.resolve_of_index hempty hr hlist hmode, Region.lists_iff hr hlist,
      SymbolIndex.reserve, if_pos (hroom t hr), Outcome.ok_bind, ← Image.ofRegion_eq_error_iff, hr,
      reduceCtorEq, exists_false, false_or]
    refine ⟨Outcome.mapError_ne_halt (endedBy_ne_halt _ _), ?_⟩
    cases failure? with
    | none => exact iff_of_false (by simp [endedBy]) (by simp)
    | some e => exact iff_of_true ⟨_, rfl⟩ ⟨symbols, e, rfl, rfl⟩

/-- A report holds what becomes of each name among the listed symbols, in the order of the names. An
index gives a report only if the listing did not end early, and then a search gives the same. -/
theorem report_of_resolve (ha : c.resolve files config names indexed = .ok a) :
    ∃ symbols failure?, r.Lists symbols failure? ∧ a = c.answerAmong config r symbols names ∧
      ((indexed || config.useIndex) = true →
        c.resolve files { config with useIndex := false } names false = .ok a) := by
  cases hr : Image.ofRegion r with
  | error e =>
    obtain ⟨f, hf⟩ := h.exists_resolve_eq_error hempty hnames hr
    rw [hf] at ha
    cases ha
  | ok t =>
    obtain ⟨symbols, failure?, hlist⟩ := Image.exists_listing t t.count 0
    refine ⟨symbols, failure?, ⟨t, hr, hlist⟩, ?_⟩
    cases hmode : indexed || config.useIndex with
    | false =>
      rw [h.resolve_of_search hempty hr hlist hmode] at ha
      refine ⟨?_, nofun⟩
      split at ha
      · exact (Outcome.ok.inj ha).symm
      · cases failure? with
        | none => exact (Outcome.ok.inj ha).symm
        | some e => cases ha
    | true =>
      rw [h.resolve_of_index hempty hr hlist hmode] at ha
      obtain ⟨_, -, ha⟩ := Outcome.bind_eq_ok_iff.mp ha
      cases failure? with
      | none =>
        cases Outcome.ok.inj ha
        refine ⟨rfl, fun _ ↦ ?_⟩
        rw [h.resolve_of_search hempty hr hlist rfl]
        split
        · rfl
        · rfl
      | some e => cases ha

end

end IsRawDump

end InputChoice

namespace Command

variable {c : Command} {files : Files} {r : Region} {names : List String} {indexed : Bool}

/-- The answer of a command that resolves names is what resolving them comes to. -/
theorem outcome_answer_resolve_iff {config : Config} {a : Answer}
    (hquery : c.query = .resolve names indexed) :
    (c.answer files).outcome = .ok (config, a) ↔
      (c.configuration files).outcome = .ok config ∧
        c.input.resolve files config names indexed = .ok a := by
  rw [outcome_answer_eq_ok_iff, hquery]
  rfl

section

variable (hraw : c.input.IsRawDump files r) (hquery : c.query = .resolve names indexed)
  (hnames : names ≠ []) (hempty : "" ∉ names)

include hraw hnames hempty

/-- A report on a whole file can be shown. -/
theorem exists_present_resolve_eq_ok {config : Config} {a : Answer} (coloured : Bool)
    (ha : c.input.resolve files config names indexed = .ok a) :
    ∃ lines, ((c.presentation config coloured).present a : Outcome Failure (List String)) =
      .ok lines := by
  obtain ⟨symbols, _, -, rfl, -⟩ := hraw.report_of_resolve hempty hnames ha
  exact Presentation.exists_present_eq_ok _ (AddressRange.start_le_stop_ofStartSize _ _)

include hquery

/-- The run succeeds exactly if there is a report in which no name is missing. -/
theorem exitCode_resolve_eq_zero_iff {colourful : Bool} :
    (c.run files colourful).exitCode = 0 ↔
      ∃ v config report, c.verbosity = .ok v ∧ (c.configuration files).outcome = .ok config ∧
        c.input.resolve files config names indexed = .ok (.resolve report) ∧
        report.unresolved = 0 := by
  rw [exitCode_run_eq_zero_iff]
  constructor
  · rintro ⟨v, config, a, lines, hverbosity, hanswer, -, hfailure⟩
    obtain ⟨hconfig, ha⟩ := (outcome_answer_resolve_iff hquery).mp hanswer
    obtain ⟨symbols, _, -, rfl, -⟩ := hraw.report_of_resolve hempty hnames ha
    exact ⟨v, config, _, hverbosity, hconfig, ha,
      Answer.failure?_resolve_eq_none_iff.mp hfailure⟩
  · rintro ⟨v, config, report, hverbosity, hconfig, hreport, hzero⟩
    obtain ⟨lines, hlines⟩ := exists_present_resolve_eq_ok hraw hnames hempty _ hreport
    exact ⟨v, config, _, lines, hverbosity,
      (outcome_answer_resolve_iff hquery).mpr ⟨hconfig, hreport⟩, hlines,
      Answer.failure?_resolve_eq_none_iff.mpr hzero⟩

/-- A run with a report in which names are missing fails and says how many of all names are. -/
theorem run_resolve_of_unresolved {colourful : Bool} {v : Verbosity} {config : Config}
    {report : ResolveReport} (hverbosity : c.verbosity = .ok v)
    (hconfig : (c.configuration files).outcome = .ok config)
    (hreport : c.input.resolve files config names indexed = .ok (.resolve report))
    (hmissing : report.unresolved ≠ 0) :
    (c.run files colourful).exitCode = 1 ∧
      (c.run files colourful).complaint =
        Transcript.complaintOf (.unresolved report.unresolved names.length)
          (colourful && !c.noColor) := by
  obtain ⟨lines, hlines⟩ := exists_present_resolve_eq_ok hraw hnames hempty
    (colourful && !c.noColor) hreport
  obtain ⟨symbols, _, -, hamong, -⟩ := hraw.report_of_resolve hempty hnames hreport
  have hlength : report.results.length = names.length := by
    cases hamong
    exact List.length_map _
  have hrun := run_of_failure hverbosity
    ((outcome_answer_resolve_iff hquery).mpr ⟨hconfig, hreport⟩) hlines
    (Answer.failure?_resolve_of_ne hmissing)
  rw [hlength] at hrun
  rw [hrun]
  exact ⟨rfl, rfl⟩

end

/-- A file is asked for several names. The two ways of answering agree. Searching fails exactly if
the header cannot be decoded, or if a record cannot and one of the names is not listed in front of
it; indexing fails exactly if the header or any record cannot be decoded. Where indexing gives a
report, searching gives the same. A report holds what became of each name in the order asked: the
entry of the first listed function with that name, or that there is none. The run succeeds exactly
if there is a report and no name is missing, and otherwise says how many are. -/
theorem resolve_of_isRawDump (hraw : c.input.IsRawDump files r)
    (hquery : c.query = .resolve names indexed) (hnames : names ≠ []) (hempty : "" ∉ names) :
    (∀ config : Config, config.useIndex = false →
      c.input.resolve files config names false ≠ .halt ∧
        ((∃ f, c.input.resolve files config names false = .error f) ↔
          (∃ e, Header.decode r = .error e) ∨
            ∃ symbols e, r.Lists symbols (some e) ∧
              ∃ name ∈ names, name ∉ symbols.map Symbol.name)) ∧
      (∀ (config : Config) indexed, (indexed || config.useIndex) = true →
        (∀ t, Image.ofRegion r = .ok t → t.count ≤ SymbolIndex.maxReserved) →
        c.input.resolve files config names indexed ≠ .halt ∧
          ((∃ f, c.input.resolve files config names indexed = .error f) ↔
            (∃ e, Header.decode r = .error e) ∨ ∃ symbols e, r.Lists symbols (some e))) ∧
      (∀ (config : Config) indexed a, (indexed || config.useIndex) = true →
        c.input.resolve files config names indexed = .ok a →
        c.input.resolve files { config with useIndex := false } names false = .ok a) ∧
      (∀ (config : Config) indexed a, c.input.resolve files config names indexed = .ok a →
        ∃ symbols failure?, r.Lists symbols failure? ∧
          a = .resolve
            { source := (c.input.rawInput config r).source
              results := names.map (Resolution.among symbols) }) ∧
      ∀ colourful,
        ((c.run files colourful).exitCode = 0 ↔
          ∃ v config report, c.verbosity = .ok v ∧ (c.configuration files).outcome = .ok config ∧
            c.input.resolve files config names indexed = .ok (.resolve report) ∧
            report.unresolved = 0) ∧
        ∀ v config report, c.verbosity = .ok v → (c.configuration files).outcome = .ok config →
          c.input.resolve files config names indexed = .ok (.resolve report) →
          report.unresolved ≠ 0 →
          (c.run files colourful).exitCode = 1 ∧
            (c.run files colourful).complaint =
              Transcript.complaintOf (.unresolved report.unresolved names.length)
                (colourful && !c.noColor) ∧
            (Failure.unresolved report.unresolved names.length).message =
              s!"{report.unresolved} of {names.length} names unresolved" := by
  refine ⟨fun config hsearch ↦ hraw.resolve_search_fails_iff hempty hnames hsearch,
    fun config indexed hmode hroom ↦ hraw.resolve_index_fails_iff hempty hnames hmode hroom,
    ?_, ?_, ?_⟩
  · intro config indexed a hmode ha
    obtain ⟨_, _, -, -, hsearch⟩ := hraw.report_of_resolve hempty hnames ha
    exact hsearch hmode
  · intro config indexed a ha
    obtain ⟨symbols, failure?, hlist, rfl, -⟩ := hraw.report_of_resolve hempty hnames ha
    exact ⟨symbols, failure?, hlist, rfl⟩
  · intro colourful
    refine ⟨exitCode_resolve_eq_zero_iff hraw hquery hnames hempty, ?_⟩
    intro v config report hverbosity hconfig hreport hmissing
    obtain ⟨hcode, hcomplaint⟩ := run_resolve_of_unresolved hraw hquery hnames hempty
      hverbosity hconfig hreport hmissing
    exact ⟨hcode, hcomplaint, Failure.message_unresolved _ _⟩

/-- A command that asks the sample image for `f`, for `g`, which it does not have, and for `f` once
more. -/
def sampleBatch : Command where
  query := .resolve ["f", "g", "f"] false
  input := { path := "sample.bin", raw := true, base := none, sections := [] }

set_option maxRecDepth 20000 in
/-- That command fails because one of the three names is missing. -/
theorem resolve_of_isRawDump_sample :
    sampleBatch.input.IsRawDump (fun _ ↦ .present sample) sample ∧
      (sampleBatch.run (fun _ ↦ .present sample) false).exitCode = 1 ∧
      (sampleBatch.run (fun _ ↦ .present sample) false).complaint =
        "[ERROR] 1 of 3 names unresolved\n" := by
  have hraw : sampleBatch.input.IsRawDump (fun _ ↦ .present sample) sample :=
    ⟨rfl, rfl, rfl, nofun⟩
  have hencode : Manifest.sampleManifest.encode = .ok sampleBytes := by rfl
  obtain ⟨stop, -, hheld⟩ := Manifest.exists_isHeldBy (r := sample) hencode rfl
  have hreport : sampleBatch.input.resolve (fun _ ↦ .present sample) {} ["f", "g", "f"] false =
      .ok (sampleBatch.input.answerAmong {} sample
        (Manifest.sampleManifest.functions.map Manifest.symbolOf) ["f", "g", "f"]) := by
    rw [hraw.resolve_of_search (by decide) hheld.ofRegion_eq
      (hheld.listing (by decide) (by decide)) rfl]
    split
    · rfl
    · rfl
  obtain ⟨-, -, -, -, hrun⟩ :=
    resolve_of_isRawDump (c := sampleBatch) hraw rfl (by decide) (by decide)
  obtain ⟨hcode, hcomplaint, -⟩ :=
    (hrun false).2 ⟨some .warn⟩ {} _ (by rfl) rfl hreport (by decide)
  refine ⟨hraw, hcode, ?_⟩
  rw [hcomplaint]
  decide +kernel

end Command

end FuncMeta
