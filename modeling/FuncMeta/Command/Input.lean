import FuncMeta.Address.Literal
import FuncMeta.Command
import FuncMeta.Config
import FuncMeta.Container
import FuncMeta.Log
import FuncMeta.Pattern.Read
import FuncMeta.Report
import FuncMeta.Text.Escaped

/-!
# Inputs of commands and their failures

The files that a command may read, and the image that it works on: a whole file, or a section of an
executable. A command may give no result, or one that is not good enough. Such a failure is told
with its causes, each behind what it has led to.
-/

namespace FuncMeta

/-- A failure of reading bytes and its causes. -/
def RegionError.chain (e : RegionError) : List String :=
  e.message ::
    match e with
    | .io reason => [reason]
    | _ => []

/-- A failure of decoding an image and its causes. -/
def LayoutError.chain (e : LayoutError) : List String :=
  e.message ::
    match e with
    | .region cause => cause.chain
    | _ => []

/-- A failure of looking symbols up and its causes. -/
def SymbolError.chain (e : SymbolError) : List String :=
  e.message ::
    match e with
    | .layout cause => cause.chain
    | .callable cause => [cause.message]
    | .notFound _ => []

/-- A failure of loading a configuration and its causes. -/
def Config.LoadError.chain (e : Config.LoadError) : List String :=
  e.message ::
    match e with
    | .io reason => [reason]
    | .parse fault => [faultText fault]
    | .invalid _ => []

/-- Why a command has failed. -/
inductive Failure where
  /-- No level of a log has this name. -/
  | logLevel (name : String)
  /-- The configuration could not be loaded. -/
  | config (path : String) (cause : Config.LoadError)
  /-- There is no such file. -/
  | noFile (path : String)
  /-- A section is chosen, but the whole file is the image. -/
  | sectionOfRaw
  /-- The base address is none. -/
  | baseAddress (text : String)
  /-- A name to resolve is empty. -/
  | emptyName
  /-- The filter is no pattern. -/
  | filter (fault : Pattern.Fault)
  /-- Not even one function is wanted. -/
  | zeroLimit
  /-- The address to look up is none. -/
  | address (text : String)
  /-- The file could not be read. -/
  | map (path : String) (cause : RegionError)
  /-- The section could not be found. -/
  | load (path : String) (cause : RegionError)
  /-- The section could not be read. -/
  | read (sectionName path : String) (cause : RegionError)
  /-- The header could not be decoded. -/
  | header (cause : LayoutError)
  /-- Resolving a name has failed although the name may exist. -/
  | resolve (cause : SymbolError)
  /-- The functions could not be indexed. -/
  | index (cause : SymbolError)
  /-- The functions could not be listed. -/
  | list (cause : SymbolError)
  /-- The address could not be looked up. -/
  | lookup (cause : SymbolError)
  /-- The image could not be audited. -/
  | audit (cause : LayoutError)
  /-- Some of the names are missing. -/
  | unresolved (missing total : Nat)
  /-- The image has defects. -/
  | issues (count : Nat)
deriving DecidableEq, Repr

namespace Failure

/-- A failure and its causes. -/
def chain : Failure → List String
  | logLevel name => [s!"Unknown log level: {name}"]
  | config path cause => s!"Failed to load config {path}" :: cause.chain
  | noFile path => [s!"Input file does not exist: {Escaped.quote path}"]
  | sectionOfRaw => ["Cannot combine --raw with --section"]
  | baseAddress text => [s!"Invalid base address: {text}"]
  | emptyName => ["Function names must not be empty"]
  | filter fault => [s!"Invalid filter: {fault.message}"]
  | zeroLimit => ["Limit must be at least 1"]
  | address text => [s!"Invalid address: {text}"]
  | map path cause => s!"Failed to map {path}" :: cause.chain
  | load path cause => s!"Failed to load metadata from {path}" :: cause.chain
  | read sectionName path cause => s!"Failed to read {sectionName} from {path}" :: cause.chain
  | header cause => "Failed to decode metadata header" :: cause.chain
  | resolve cause => "Metadata layout is not compatible" :: cause.chain
  | index cause => "Failed to index function table" :: cause.chain
  | list cause => "Failed to enumerate function table" :: cause.chain
  | lookup cause => "Failed to search function table" :: cause.chain
  | audit cause => "Metadata layout is not compatible" :: cause.chain
  | unresolved missing total => [s!"{missing} of {total} names unresolved"]
  | issues count => [s!"{count} layout issues found"]

/-- The text of a failure. -/
def message (f : Failure) : String := ": ".intercalate f.chain

end Failure

/-- What stands under a path. -/
inductive File where
  /-- Nothing. -/
  | missing
  /-- Something that the system refuses to read. -/
  | unreadable (reason : String)
  /-- A file with these bytes. -/
  | present (bytes : Region)

namespace File

/-- Why a file that is missing cannot be read. -/
def missingReason : String := "No such file or directory (os error 2)"

/-- Whether there is anything. -/
def isThere : File → Bool
  | missing => false
  | _ => true

/-- The bytes of a file, or why there are none. -/
def read : File → Except String Region
  | missing => .error missingReason
  | unreadable reason => .error reason
  | present bytes => .ok bytes

end File

/-- What stands under each path. -/
abbrev Files : Type := String → File

/-- An image and where it came from. -/
structure Input where
  /-- The file. -/
  path : String
  /-- The section of the executable, if the file is not the image itself. -/
  sectionName : Option String
  /-- The image and the address that it is mapped at. -/
  blob : Blob

namespace Input

/-- The source of an image, for reports. -/
def source (i : Input) : Source where
  path := i.path
  sectionName := i.sectionName
  range := i.blob.range

end Input

namespace InputChoice

/-- Checks a choice: the file exists, a section is chosen only of an executable, and the base
address is one. -/
def check (c : InputChoice) (files : Files) : Except Failure Unit := do
  if (files c.path).isThere then pure () else .error (.noFile c.path)
  if c.raw ∧ c.sections ≠ [] then .error .sectionOfRaw else pure ()
  match c.base with
  | some text =>
    if (Address.parse? text).isSome then pure () else .error (.baseAddress text)
  | none => pure ()

/-- The address that the image is to be mapped at. What was typed counts before what the
configuration says. -/
def baseAddress (c : InputChoice) (config : Config) : Option Address :=
  c.base.bind Address.parse? <|> config.baseAddress

/-- The sections that may hold the image. -/
def sectionNames (c : InputChoice) (config : Config) : List String :=
  if c.sections.isEmpty then config.sectionNames else c.sections

/-- A whole file as the image. -/
def openRaw (c : InputChoice) (files : Files) (config : Config) : Except Failure Input :=
  match (files c.path).read with
  | .ok region =>
    .ok {
      path := c.path
      sectionName := none
      blob := { region, base := (c.baseAddress config).getD .null } }
  | .error reason => .error (.map c.path (.io reason))

/-- The section of an executable that holds the image, and the whole file. -/
def findSection (c : InputChoice) (files : Files) (config : Config) :
    Except RegionError (Section × Region) := do
  let file ← (files c.path).read.mapError .io
  let found ← file.findSection (c.sectionNames config)
  return (found, file)

/-- A section that was found. -/
def narration (c : InputChoice) (s : Section) : LogRecord where
  level := .debug
  text := s!"Found {s.name} in {c.path} at file offset 0x{Numeral.hex 1 s.fileOffset.toNat} " ++
    s!"({s.size} bytes, mapped at {s.address})"

/-- A section of an executable as the image. -/
def openSection (c : InputChoice) (files : Files) (config : Config) : Told Failure Input :=
  match c.findSection files config with
  | .error e => .fail (.load c.path e)
  | .ok (found, file) =>
    { log := [c.narration found]
      outcome :=
        match found.blob file with
        | .error e => .error (.read found.name c.path e)
        | .ok blob =>
          .ok {
            path := c.path
            sectionName := some found.name
            blob := { blob with base := (c.baseAddress config).getD blob.base } } }

/-- The image that is chosen. -/
def openInput (c : InputChoice) (files : Files) (config : Config) : Told Failure Input := do
  Told.ofExcept (c.check files)
  if c.raw then Told.ofExcept (c.openRaw files config) else c.openSection files config

end InputChoice

end FuncMeta
