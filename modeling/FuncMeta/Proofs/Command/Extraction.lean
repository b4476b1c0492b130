import FuncMeta.Proofs.Command.RawDump
import FuncMeta.Proofs.Region.Window

/-!
# Images in sections of executables

The bytes of a section are taken as they stand in the file, or not at all. A command that works on a
section of an executable answers as one that works on a file with just the bytes of that section.
Only the source that the answer names is another. Main statements: `blob_eq_ok_iff`,
`blob_eq_error_iff`, `Query.outcome_answer_of_region_eq`,
`InputChoice.IsExecutable.outcome_openInput` and `Region.sections_of_any_file`.
-/

namespace FuncMeta

namespace Section

variable {s : Section} {file : Region} {b : Blob} {e : RegionError}

/-- The bytes of a section that lies in the file are those of the file from its offset on, and are
mapped at its address. -/
theorem blob_eq_ok_iff : s.blob file = .ok b ↔
    s.fileOffset.toNat + s.size.toNat ≤ file.size ∧ b.base = s.address ∧
      b.region.toList = window file.toList s.fileOffset.toNat s.size.toNat := by
  rw [blob]
  rcases Nat.lt_or_ge file.size (s.fileOffset.toNat + s.size.toNat) with hlt | hle
  · rw [Region.slice_of_lt hlt]
    exact iff_of_false nofun fun h ↦ Nat.not_le_of_lt hlt h.1
  · rw [Region.slice_of_le hle, ← Region.toList_extract_add]
    constructor
    · rintro ⟨⟩
      exact ⟨hle, rfl, rfl⟩
    · rintro ⟨-, hbase, hbytes⟩
      cases b
      cases hbase
      cases Region.ext hbytes
      rfl

/-- Everything else is refused. As a file is shorter than half of the address space, a section whose
end leaves that space does not lie in it either. -/
theorem blob_eq_error_iff : s.blob file = .error e ↔
    (Word.limit ≤ s.fileOffset.toNat + s.size.toNat ∨
        file.size < s.fileOffset.toNat + s.size.toNat) ∧
      e = .outOfBounds s.fileOffset.toNat s.size.toNat file.size := by
  have hfile := file.size_lt_half
  rw [blob]
  rcases Nat.lt_or_ge file.size (s.fileOffset.toNat + s.size.toNat) with hlt | hle
  · rw [Region.slice_of_lt hlt]
    constructor
    · rintro ⟨⟩
      exact ⟨.inr hlt, rfl⟩
    · rintro ⟨-, rfl⟩
      rfl
  · rw [Region.slice_of_le hle]
    refine iff_of_false nofun ?_
    rintro ⟨hlimit | hlt, -⟩
    · have hhalf : Word.half ≤ Word.limit := by decide
      omega
    · omega

end Section

/-- The answer with another source. -/
def Answer.withSource (source : Source) : Answer → Answer
  | .header report => .header { report with source }
  | .resolve report => .resolve { report with source }
  | .list report => .list { report with source }
  | .lookup report => .lookup { report with source }
  | .verify report strict => .verify { report with source } strict

namespace Input

variable {i i' : Input} (h : i.blob.region = i'.blob.region)

include h

private theorem outcome_headerReport_of_region_eq : i.headerReport.outcome =
    (fun report ↦ { report with source := i.source }) <$> i'.headerReport.outcome := by
  rw [headerReport, headerReport, h]
  dsimp only
  cases Header.decode i'.blob.region with
  | ok header => rfl
  | error e => rfl

private theorem resolutions_of_region_eq (names : List String) (useIndex : Bool) :
    i.resolutions names useIndex = i'.resolutions names useIndex := by
  have hsearch : i.searchName = i'.searchName := by
    funext name
    rw [searchName, searchName, h]
  rw [resolutions, resolutions, functionIndex, functionIndex, hsearch, h]

private theorem outcome_resolveReport_of_region_eq (names : List String) (useIndex : Bool) :
    (i.resolveReport names useIndex).outcome =
      (fun report ↦ { report with source := i.source }) <$>
        (i'.resolveReport names useIndex).outcome := by
  rw [resolveReport, resolveReport, resolutions_of_region_eq h]
  simp only [Told.outcome_bind, Told.outcome_pure]
  cases (i'.resolutions names useIndex).outcome with
  | ok results => rfl
  | error e => rfl
  | halt => rfl

private theorem outcome_listReport_of_region_eq (filter : Option Pattern) (limit : Option UInt64) :
    (i.listReport filter limit).outcome =
      (fun report ↦ { report with source := i.source }) <$>
        (i'.listReport filter limit).outcome := by
  rw [listReport, listReport, h]
  dsimp only
  cases i'.blob.region.symbols with
  | ok symbols => rfl
  | error e => rfl
  | halt => rfl

private theorem outcome_lookupReport_of_region_eq (pc : Address) :
    (i.lookupReport pc).outcome =
      (fun report ↦ { report with source := i.source }) <$> (i'.lookupReport pc).outcome := by
  rw [lookupReport, lookupReport, h]
  dsimp only
  cases i'.blob.region.functionAt pc with
  | ok function => rfl
  | error e => rfl
  | halt => rfl

private theorem outcome_auditReport_of_region_eq : i.auditReport.outcome =
    (fun report ↦ { report with source := i.source }) <$> i'.auditReport.outcome := by
  rw [auditReport, auditReport, h]
  dsimp only
  cases i'.blob.region.audit with
  | ok audit => rfl
  | error e => rfl
  | halt => rfl

end Input

section

variable {i i' : Input} {opened opened' : Told Failure Input} (hi : opened.outcome = .ok i)
  (hi' : opened'.outcome = .ok i')

include hi hi'

/-- The answer that a report gives names another source if the report does. -/
theorem outcome_answer_of_report {ρ : Type} {report : Input → Told Failure ρ} {move : ρ → ρ}
    {answer : ρ → Answer} (hreport : (report i).outcome = move <$> (report i').outcome)
    (hanswer : ∀ r, answer (move r) = (answer r).withSource i.source) :
    (do let i ← opened; let r ← report i; return answer r : Told Failure Answer).outcome =
      Answer.withSource i.source <$>
        (do let i ← opened'; let r ← report i; return answer r : Told Failure Answer).outcome := by
  simp only [Told.outcome_bind, hi, hi', Outcome.ok_bind, hreport, Told.outcome_pure]
  cases (report i').outcome with
  | ok r => exact congrArg Outcome.ok (hanswer r)
  | error e => rfl
  | halt => rfl

/-- What a query comes to depends on the bytes of the image alone, but for the source that the
answer names. -/
theorem Query.outcome_answer_of_region_eq (h : i.blob.region = i'.blob.region) (q : Query)
    (check : Except Failure Unit) (useIndex : Bool) :
    (q.answer check opened useIndex).outcome =
      Answer.withSource i.source <$> (q.answer check opened' useIndex).outcome := by
  cases q with
  | header =>
    have hreport := Input.outcome_headerReport_of_region_eq h
    exact outcome_answer_of_report hi hi' hreport fun _ ↦ rfl
  | resolve names indexed =>
    simp only [Query.answer, Told.outcome_bind, map_bind]
    refine bind_congr fun _ ↦ ?_
    split
    · rfl
    · have hreport := Input.outcome_resolveReport_of_region_eq h names (indexed || useIndex)
      exact outcome_answer_of_report hi hi' hreport fun _ ↦ rfl
  | list filter limit =>
    simp only [Query.answer, Told.outcome_bind, map_bind]
    refine bind_congr fun _ ↦ bind_congr fun pattern ↦ ?_
    split
    · rfl
    · have hreport := Input.outcome_listReport_of_region_eq h pattern limit
      exact outcome_answer_of_report hi hi' hreport fun _ ↦ rfl
  | lookup text =>
    simp only [Query.answer, Told.outcome_bind, map_bind]
    refine bind_congr fun _ ↦ ?_
    cases Address.parse? text with
    | none => rfl
    | some pc =>
      have hreport := Input.outcome_lookupReport_of_region_eq h pc
      exact outcome_answer_of_report hi hi' hreport fun _ ↦ rfl
  | verify strict =>
    have hreport := Input.outcome_auditReport_of_region_eq h
    exact outcome_answer_of_report hi hi' hreport fun _ ↦ rfl

end

namespace InputChoice

variable {c : InputChoice} {files : Files} {config : Config} {file : Region}

/-- The choice is a section of an executable, which is there, and a base address that is one, if one
was typed. -/
structure IsExecutable (c : InputChoice) (files : Files) (file : Region) : Prop where
  raw : c.raw = false
  file : files c.path = .present file
  base : ∀ text, c.base = some text → (Address.parse? text).isSome = true

/-- The bytes of a section as the image. -/
def sectionInput (c : InputChoice) (config : Config) (s : Section) (b : Blob) : Input where
  path := c.path
  sectionName := some s.name
  blob := { b with base := (c.baseAddress config).getD b.base }

namespace IsExecutable

private theorem check_eq (h : c.IsExecutable files file) : c.check files = .ok () :=
  check_of_present h.file (by simp [h.raw]) h.base

/-- An executable is opened by finding the section and taking its bytes. -/
theorem outcome_openInput (h : c.IsExecutable files file) (config : Config) :
    (c.openInput files config).outcome =
      match file.findSection (c.sectionNames config) with
      | .error e => .error (.load c.path e)
      | .ok s =>
        match s.blob file with
        | .error e => .error (.read s.name c.path e)
        | .ok b => .ok (c.sectionInput config s b) := by
  have hfind : c.findSection files config =
      (file.findSection (c.sectionNames config)).map fun s ↦ (s, file) := by
    rw [findSection, h.file]
    show (file.findSection _ >>= fun s ↦ pure (s, file)) = _
    cases file.findSection (c.sectionNames config) <;> rfl
  rw [openInput, h.check_eq, if_neg (by simp [h.raw]), openSection, hfind]
  cases file.findSection (c.sectionNames config) with
  | error e => rfl
  | ok s => cases s.blob file <;> rfl

end IsExecutable

end InputChoice

/-- Which section of a file is taken as the image, and what is read from it. Of the sections of any
file the first one with the earliest wanted name that any of them carries is found; none is exactly
if no section carries any of the names. Its bytes are those of the file from its offset on, mapped
at its address, and are refused exactly if they do not all lie in the file. A command that finds the
section opens it with these bytes, mapped at its address unless the choice or the configuration says
otherwise. Every query about it then comes to what it comes to about a file with just these bytes,
but for the source that the answer names. -/
theorem Region.sections_of_any_file (file : Region) (sections : List Section)
    (wanted : List String) :
    (file.sections = .ok sections → file.findSection wanted = Section.select sections wanted) ∧
      (∀ s, Section.select sections wanted = .ok s ↔ Section.IsSelected sections wanted s) ∧
      (∀ e, Section.select sections wanted = .error e ↔
        (∀ name ∈ wanted, ∀ s ∈ sections, s.name ≠ name) ∧
          e = .sectionNotFound (", ".intercalate wanted)) ∧
      ∀ s : Section,
        (∀ b, s.blob file = .ok b ↔
          s.fileOffset.toNat + s.size.toNat ≤ file.size ∧ b.base = s.address ∧
            b.region.toList = window file.toList s.fileOffset.toNat s.size.toNat) ∧
        (∀ e, s.blob file = .error e ↔
          (Word.limit ≤ s.fileOffset.toNat + s.size.toNat ∨
              file.size < s.fileOffset.toNat + s.size.toNat) ∧
            e = .outOfBounds s.fileOffset.toNat s.size.toNat file.size) ∧
        ∀ b dump, s.blob file = .ok b →
          dump.toList = window file.toList s.fileOffset.toNat s.size.toNat →
          ∀ (c : InputChoice) (files : Files) (config : Config),
            c.IsExecutable files file → file.findSection (c.sectionNames config) = .ok s →
            (c.openInput files config).outcome = .ok (c.sectionInput config s b) ∧
            ∀ (c' : InputChoice) (files' : Files) (config' : Config), c'.IsRawDump files' dump →
              ∀ (q : Query) (useIndex : Bool),
                (q.answer (c.check files) (c.openInput files config) useIndex).outcome =
                  Answer.withSource (c.sectionInput config s b).source <$> (q.answer
                    (c'.check files') (c'.openInput files' config') useIndex).outcome := by
  refine ⟨?_, fun s ↦ Section.select_eq_ok_iff, fun e ↦ Section.select_eq_error_iff, ?_⟩
  · intro hsections
    rw [findSection, hsections]
    rfl
  intro s
  refine ⟨fun b ↦ Section.blob_eq_ok_iff, fun e ↦ Section.blob_eq_error_iff, ?_⟩
  intro b dump hb hdump c files config hc hs
  have hregion : b.region = dump :=
    Region.ext ((Section.blob_eq_ok_iff.mp hb).2.2.trans hdump.symm)
  have hopen : (c.openInput files config).outcome = .ok (c.sectionInput config s b) := by
    rw [hc.outcome_openInput, hs]
    dsimp only
    rw [hb]
  refine ⟨hopen, fun c' files' config' hc' q useIndex ↦ ?_⟩
  rw [hc.check_eq, hc'.check_eq]
  exact Query.outcome_answer_of_region_eq hopen (hc'.openInput_eq config') hregion q _ useIndex

/-- A section header of 40 bytes. -/
def sectionHeaderBytes (name kind address start size : Nat) : List UInt8 :=
  [name, kind, 0, address, start, size, 0, 0, 0, 0].flatMap (LittleEndian.encode 4)

/-- An executable with a section `.q` and two sections `.p` behind it, the first of which holds the
sample image. -/
def executableBytes : List UInt8 :=
  [0x7f, 0x45, 0x4c, 0x46, 1, 1] ++ List.replicate 26 0 ++ LittleEndian.encode 4 204 ++
    List.replicate 12 0 ++ [5, 0, 4, 0] ++ sampleBytes ++
    [0, 0x2e, 0x71, 0, 0x2e, 0x70, 0, 0] ++ sectionHeaderBytes 0 0 0 0 0 ++
    sectionHeaderBytes 1 1 0x800 52 4 ++ sectionHeaderBytes 4 1 0x1000 52 144 ++
    sectionHeaderBytes 4 1 0x2000 56 8 ++ sectionHeaderBytes 0 3 0 196 7

set_option maxRecDepth 20000 in
/-- The region of that executable. -/
def executable : Region where
  bytes := ⟨executableBytes.toArray⟩
  size_lt := by decide

/-- The section that holds the sample image. -/
def sampleSection : Section where
  name := ".p"
  fileOffset := 52
  size := 144
  address := .ofNat 0x1000

/-- The sections of that executable. The first one and the name table have empty names. -/
def executableSections : List Section :=
  [{ name := "", fileOffset := 0, size := 0, address := .null },
    { name := ".q", fileOffset := 52, size := 4, address := .ofNat 0x800 },
    sampleSection,
    { name := ".p", fileOffset := 56, size := 8, address := .ofNat 0x2000 },
    { name := "", fileOffset := 196, size := 7, address := .null }]

/-- The choice of a section of that executable, mapped elsewhere. -/
def executableChoice : InputChoice where
  path := "a.out"
  raw := false
  base := some "0x40_0000"
  sections := [".none", ".p", ".q"]

set_option maxRecDepth 20000 in
/-- The first of the wanted names is passed over, as no section carries it. The section that is
found is opened at the address that was typed, and answers as the sample image does. -/
theorem Region.sections_of_any_file_sample :
    executable.sections = .ok executableSections ∧
      executable.findSection [".none", ".p", ".q"] = .ok sampleSection ∧
      (executableChoice.openInput (fun _ ↦ .present executable) {}).outcome =
        .ok {
          path := "a.out"
          sectionName := some ".p"
          blob := { region := sample, base := ⟨0x400000⟩ } } ∧
      ((Query.resolve ["f"] false).answer (executableChoice.check fun _ ↦ .present executable)
          (executableChoice.openInput (fun _ ↦ .present executable) {}) false).outcome =
        Answer.withSource
            (executableChoice.sectionInput {} sampleSection ⟨sample, .ofNat 0x1000⟩).source <$>
          ((Query.resolve ["f"] false).answer
            (Command.sampleBatch.input.check fun _ ↦ .present sample)
            (Command.sampleBatch.input.openInput (fun _ ↦ .present sample) {}) false).outcome := by
  -- Results that may be errors cannot be compared, so the list is computed without its error.
  have hread : executable.sections.toOption = some executableSections := by decide +kernel
  have hsections : executable.sections = .ok executableSections := by
    cases hr : executable.sections with
    | ok sections =>
      rw [hr] at hread
      exact congrArg _ (Option.some.inj hread)
    | error e =>
      rw [hr] at hread
      cases hread
  obtain ⟨hfind, hselect, -, hblob⟩ :=
    sections_of_any_file executable executableSections [".none", ".p", ".q"]
  have hselected : Section.IsSelected executableSections [".none", ".p", ".q"] sampleSection :=
    ⟨⟨[".none"], [".q"], rfl, by decide⟩, ⟨executableSections.take 2, _, rfl, by decide⟩⟩
  have hfound : executable.findSection [".none", ".p", ".q"] = .ok sampleSection :=
    (hfind hsections).trans ((hselect sampleSection).mpr hselected)
  obtain ⟨hbytes, -, hquery⟩ := hblob sampleSection
  have hwindow : sample.toList = window executable.toList 52 144 := by decide +kernel
  have hextracted : sampleSection.blob executable = .ok ⟨sample, .ofNat 0x1000⟩ :=
    (hbytes _).mpr ⟨by decide, rfl, hwindow⟩
  have hchoice : executableChoice.IsExecutable (fun _ ↦ .present executable) executable := by
    refine ⟨rfl, rfl, ?_⟩
    rintro _ ⟨⟩
    decide +kernel
  have hraw : Command.sampleBatch.input.IsRawDump (fun _ ↦ .present sample) sample :=
    ⟨rfl, rfl, rfl, nofun⟩
  obtain ⟨hopen, hanswer⟩ :=
    hquery _ sample hextracted hwindow executableChoice _ {} hchoice hfound
  have hbase : executableChoice.baseAddress {} = some ⟨0x400000⟩ := by decide +kernel
  rw [InputChoice.sectionInput, hbase] at hopen
  exact ⟨hsections, hfound, hopen, hanswer Command.sampleBatch.input _ {} hraw
    (.resolve ["f"] false) false⟩

end FuncMeta
