import FuncMeta.Command.Answer
import FuncMeta.Report.Json
import FuncMeta.Report.Text
import FuncMeta.Text.Case

/-!
# Running commands

A run first sets up its log and its configuration, then answers the query and shows the answer. An
answer that is not good enough is shown all the same, and is a failure after that.

An answer is shown as JSON, or as lines of text with the input in front. A mark at the start of a
line says what kind of line it is. Text is coloured by control sequences around it.
-/

namespace FuncMeta

/-- A colour of text. -/
inductive Colour where
  /-- For failures. -/
  | red
  /-- For what is as wanted. -/
  | green
  /-- For what may not be as wanted. -/
  | yellow
  /-- For the input. -/
  | blue
  /-- For counts. -/
  | cyan
deriving DecidableEq, Repr

namespace Colour

/-- The number of a colour in a control sequence. -/
def code : Colour → Nat
  | red => 31
  | green => 32
  | yellow => 33
  | blue => 34
  | cyan => 36

/-- A text in a colour, if texts are coloured at all. -/
def paint (c : Colour) (coloured : Bool) (text : String) : String :=
  if coloured then s!"\x1b[{c.code}m{text}\x1b[0m" else text

end Colour

/-- How answers are shown. -/
structure Presentation where
  /-- Whether only results are shown. -/
  quiet : Bool
  /-- Whether the answer is JSON. -/
  json : Bool
  /-- Whether text is coloured. -/
  coloured : Bool
  /-- How text is laid out. -/
  layout : TextLayout

namespace Presentation

/-- A line with a coloured mark in front. -/
def marked (p : Presentation) (c : Colour) (mark line : String) : String :=
  s!"{c.paint p.coloured mark} {line}"

/-- The line of the input, unless only results are shown. -/
def announce {ε : Type} (p : Presentation) (s : Source) : Outcome ε (List String) :=
  if p.quiet then .ok []
  else do
    let line ← p.layout.source s
    return [p.marked .blue "[*]" line]

/-- The line of a name. -/
def resolution (p : Presentation) (r : Resolution) : String :=
  if r.isResolved then p.marked .green "[+]" (p.layout.resolution r)
  else p.marked .red "[-]" (p.layout.resolution r)

/-- The lines of a list of functions. Their number follows, unless only results are shown. -/
def list (p : Presentation) (r : ListReport) : List String :=
  let count := s!"{r.symbols.length} of {r.total} functions"
  p.layout.list r ++ if p.quiet then [] else [Colour.cyan.paint p.coloured count]

/-- The line of the function at an address. -/
def lookup (p : Presentation) (r : LookupReport) : String :=
  if r.function.isSome then p.marked .green "[+]" (p.layout.lookup r)
  else p.marked .yellow "[-]" (p.layout.lookup r)

/-- The lines of an audit: its issues, and how many records were read. -/
def audit (p : Presentation) (a : Audit) : List String :=
  let issues := a.issues.map fun issue ↦ p.marked .yellow "[!]" issue.message
  let count := s!"{a.checked} functions checked"
  let summary :=
    if a.isClean then Colour.green.paint p.coloured s!"{count}, no issues"
    else Colour.yellow.paint p.coloured s!"{count}, {a.issues.length} issues"
  issues ++ [summary]

/-- The lines of an answer, without the line of the input. -/
def lines (p : Presentation) : Answer → List String
  | .header r => (TextLayout.header r).map fun line ↦ s!"  {line}"
  | .resolve r => r.results.map p.resolution
  | .list r => p.list r
  | .lookup r => [p.lookup r]
  | .verify r _ => p.audit r.audit

/-- The value of an answer. -/
def value : Answer → Json
  | .header r => r.toJson
  | .resolve r => r.toJson
  | .list r => r.toJson
  | .lookup r => r.toJson
  | .verify r _ => r.toJson

/-- The source of the image that an answer is about. -/
def sourceOf : Answer → Source
  | .header r => r.source
  | .resolve r => r.source
  | .list r => r.source
  | .lookup r => r.source
  | .verify r _ => r.source

/-- An answer as it is shown. -/
def present {ε : Type} (p : Presentation) (a : Answer) : Outcome ε (List String) :=
  if p.json then .ok [(value a).render .pretty]
  else do
    let announced ← p.announce (sourceOf a)
    return announced ++ p.lines a

end Presentation

/-- What a run leaves behind. -/
structure Transcript where
  /-- The output. -/
  output : String
  /-- What is said about a failure. -/
  complaint : String
  /-- The records that are logged. -/
  log : List LogRecord
  /-- The exit code. -/
  exitCode : Nat
deriving DecidableEq, Repr

namespace Command

/-- The verbosity that was typed. The case of its letters does not matter. -/
def verbosity (c : Command) : Except Failure Verbosity :=
  let name := Lowercase.lower c.logLevel
  match Verbosity.ofName? name with
  | some v => .ok v
  | none => .error (.logLevel name)

/-- The configuration in a file. -/
def loadConfig (file : File) : Except Config.LoadError Config := do
  let region ← file.read.mapError .io
  Config.load region.bytes

/-- The configuration of a run. -/
def configuration (c : Command) (files : Files) : Told Failure Config :=
  match c.config with
  | none => pure {}
  | some path =>
    match loadConfig (files path) with
    | .ok config =>
      { log := [{ level := .debug, text := s!"Loaded config from {path}" }]
        outcome := .ok config }
    | .error e => .fail (.config path e)

/-- The answer to a query, and the configuration of the run. -/
def answer (c : Command) (files : Files) : Told Failure (Config × Answer) := do
  let config ← c.configuration files
  let opened := c.input.openInput files config
  let answer ← c.query.answer (c.input.check files) opened config.useIndex
  return (config, answer)

/-- How a run shows its answer. -/
def presentation (c : Command) (config : Config) (coloured : Bool) : Presentation where
  quiet := c.quiet
  json := c.jsonOutput
  coloured := coloured
  layout := { addressWidth := config.addressWidth.toNat }

/-- The output of a run and the failure behind it, if there is one. -/
def outcome (c : Command) (coloured : Bool) (answered : Outcome Failure (Config × Answer)) :
    Outcome Failure (List String × Option Failure) := do
  let (config, answer) ← answered
  let lines ← (c.presentation config coloured).present answer
  return (lines, answer.failure?)

end Command

namespace Transcript

/-- What is said about a failure. -/
def complaintOf (f : Failure) (coloured : Bool) : String :=
  let mark := Colour.red.paint coloured "[ERROR]"
  s!"{mark} {f.message}\n"

/-- The lines of an output. -/
def outputOf (lines : List String) : String := String.join (lines.map (· ++ "\n"))

/-- A run that shows something and may fail after that. -/
def ofResult (log : List LogRecord) (coloured : Bool)
    (result : Outcome Failure (List String × Option Failure)) : Transcript :=
  match result with
  | .ok (lines, none) => { output := outputOf lines, complaint := "", log, exitCode := 0 }
  | .ok (lines, some f) =>
    { output := outputOf lines, complaint := complaintOf f coloured, log, exitCode := 1 }
  | .error f => { output := "", complaint := complaintOf f coloured, log, exitCode := 1 }
  | .halt => { output := "", complaint := "arithmetic out of range\n", log, exitCode := 101 }

end Transcript

/-- Runs a command on some files. Whether text is coloured depends on where it goes and, once the
verbosity has been accepted, on the command. -/
def Command.run (c : Command) (files : Files) (colourful : Bool) : Transcript :=
  match c.verbosity with
  | .error f => .ofResult [] colourful (.error f)
  | .ok verbosity =>
    let coloured := colourful && !c.noColor
    let told := c.answer files
    .ofResult (verbosity.select told.log) coloured (c.outcome coloured told.outcome)

end FuncMeta
