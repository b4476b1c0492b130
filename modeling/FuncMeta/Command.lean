import FuncMeta.Text.Numeral

/-!
# Commands

What the command line asks for, before anything is read, and the words and options that a command
line may hold. An option has a long name, some have a short one as well; a place is filled by a word
that is no option. A command line may ask for nothing that the program could do; then the program
says something about its use instead.
-/

namespace FuncMeta

/-- Which bytes a command works on. -/
structure InputChoice where
  /-- The file. -/
  path : String
  /-- Whether the whole file is the image. -/
  raw : Bool
  /-- The address that the image is mapped at, as it was typed. -/
  base : Option String
  /-- The sections that may hold the image, or none to leave the choice to the configuration. -/
  sections : List String
deriving DecidableEq, Repr

/-- What is asked about an image. -/
inductive Query where
  /-- The header. -/
  | header
  /-- The addresses of some functions, by a search for each name or through an index. -/
  | resolve (names : List String) (useIndex : Bool)
  /-- The functions whose names match a filter, but not more than the limit. -/
  | list (filter : Option String) (limit : Option UInt64)
  /-- The function at an address, as it was typed. -/
  | lookup (pc : String)
  /-- The defects. With `strict` a defect is an error. -/
  | verify (strict : Bool)
deriving DecidableEq, Repr

/-- What the command line asks for. -/
structure Command where
  /-- What is asked. -/
  query : Query
  /-- Which bytes it is asked about. -/
  input : InputChoice
  /-- The least severe level that is logged, as it was typed. -/
  logLevel : String := "warn"
  /-- Whether only results are shown. -/
  quiet : Bool := false
  /-- Whether nothing is coloured. -/
  noColor : Bool := false
  /-- Whether the result is JSON. -/
  jsonOutput : Bool := false
  /-- The file with the configuration. -/
  config : Option String := none
deriving DecidableEq, Repr

/-- The first word of a command. -/
inductive Verb where
  /-- Shows the header. -/
  | header
  /-- Resolves names. -/
  | resolve
  /-- Lists functions. -/
  | list
  /-- Looks an address up. -/
  | lookup
  /-- Audits the image. -/
  | verify
deriving DecidableEq, Repr

namespace Verb

/-- The verb that a word stands for. -/
def ofName? : String → Option Verb
  | "header" => some header
  | "resolve" => some resolve
  | "list" => some list
  | "lookup" => some lookup
  | "verify" => some verify
  | _ => none

end Verb

/-- An option or a place of the command line. -/
inductive Param where
  /-- The least severe level that is logged. -/
  | logLevel
  /-- Shows only results. -/
  | quiet
  /-- Colours nothing. -/
  | noColor
  /-- Gives the result as JSON. -/
  | jsonOutput
  /-- The file with the configuration. -/
  | config
  /-- Shows how the program is used. -/
  | help
  /-- Shows which version the program is. -/
  | version
  /-- Takes the whole file as the image. -/
  | raw
  /-- The address that the image is mapped at. -/
  | base
  /-- A section that may hold the image. -/
  | sectionName
  /-- Resolves names through an index. -/
  | index
  /-- What the names of the functions have to match. -/
  | filter
  /-- The greatest number of functions. -/
  | limit
  /-- Makes a defect an error. -/
  | strict
  /-- The file: the first place. -/
  | input
  /-- The names to resolve: places without a limit. -/
  | names
  /-- The address to look up: the second place. -/
  | pc
deriving DecidableEq, Repr

namespace Param

/-- The name of an option behind two hyphens. -/
def long? : Param → Option String
  | logLevel => some "log-level"
  | quiet => some "quiet"
  | noColor => some "no-color"
  | jsonOutput => some "json-output"
  | config => some "config"
  | help => some "help"
  | version => some "version"
  | raw => some "raw"
  | base => some "base"
  | sectionName => some "section"
  | index => some "index"
  | filter => some "filter"
  | limit => some "limit"
  | strict => some "strict"
  | input | names | pc => none

/-- The letter of an option behind one hyphen. -/
def short? : Param → Option Char
  | logLevel => some 'l'
  | quiet => some 'q'
  | config => some 'c'
  | help => some 'h'
  | version => some 'V'
  | filter => some 'f'
  | _ => none

/-- Whether a parameter has a value. -/
def takesValue : Param → Bool
  | quiet | noColor | jsonOutput | help | version | raw | index | strict => false
  | _ => true

/-- Whether a parameter may be given again. -/
def repeats : Param → Bool
  | sectionName | names => true
  | _ => false

/-- How a parameter is shown in a message. -/
def shown (p : Param) : String :=
  match p, p.long? with
  | _, some long => s!"--{long}"
  | input, _ => "<INPUT>"
  | names, _ => "<NAMES>"
  | _, _ => "<PC>"

end Param

/-- The part of the command line up to the verb, or the part behind a verb. -/
inductive Scope where
  /-- The part up to the verb. -/
  | root
  /-- The part behind a verb. -/
  | verb (v : Verb)
deriving DecidableEq, Repr

namespace Scope

/-- The options that may be given in every part. -/
def everywhere : List Param := [.logLevel, .quiet, .noColor, .jsonOutput, .config, .help]

/-- The options that may be given behind every verb. -/
def ofInput : List Param := [.raw, .base, .sectionName]

/-- The options that may be given in a part. -/
def options : Scope → List Param
  | root => .version :: everywhere
  | verb .header => ofInput ++ everywhere
  | verb .resolve => .index :: ofInput ++ everywhere
  | verb .list => .filter :: .limit :: ofInput ++ everywhere
  | verb .lookup => ofInput ++ everywhere
  | verb .verify => .strict :: ofInput ++ everywhere

/-- The places in a part, all of which have to be filled. -/
def places : Scope → List Param
  | root => []
  | verb .resolve => [.input, .names]
  | verb .lookup => [.input, .pc]
  | verb _ => [.input]

/-- The option with a long name. -/
def long? (s : Scope) (name : String) : Option Param := s.options.find? (·.long? = some name)

/-- The option with a letter. -/
def short? (s : Scope) (letter : Char) : Option Param := s.options.find? (·.short? = some letter)

end Scope

/-- Why a command line holds no command. -/
inductive UsageError where
  /-- No parameter is meant. -/
  | unknownArgument (argument : String)
  /-- No verb is meant. -/
  | unknownVerb (word : String)
  /-- There are options but no verb. -/
  | missingVerb
  /-- Places are not filled. -/
  | missingPlaces (places : List Param)
  /-- A parameter has no value. -/
  | missingValue (param : Param)
  /-- The value of a parameter is no number. -/
  | invalidNumber (param : Param) (value : String)
  /-- A parameter is given again that may be given once. -/
  | repeated (param : Param)
  /-- An option has a value that takes none. -/
  | unwantedValue (param : Param) (value : String)
  /-- There is nothing at all. -/
  | nothing
  /-- Help is asked for. -/
  | help
  /-- The version is asked for. -/
  | version
deriving DecidableEq, Repr

namespace UsageError

/-- What the program says about its use. -/
def summary : List String :=
  ["Usage: funcmeta [OPTIONS] <COMMAND>",
    "",
    "Commands:",
    "  header <INPUT>            Show the header of the image",
    "  resolve <INPUT> <NAMES>   Resolve names of functions to addresses [--index]",
    "  list <INPUT>              List the functions [--filter <PATTERN>] [--limit <N>]",
    "  lookup <INPUT> <PC>       Find the function at an address",
    "  verify <INPUT>            Look for defects of the image [--strict]",
    "",
    "Every command takes [--raw] [--base <ADDRESS>] [--section <NAME>].",
    "",
    "Options:",
    "  -l, --log-level <LEVEL>   off, error, warn, info, debug or trace [default: warn]",
    "  -q, --quiet               Show only results",
    "      --no-color            Colour nothing",
    "      --json-output         Give the result as JSON",
    "  -c, --config <FILE>       Read a configuration",
    "  -h, --help                Show this text",
    "  -V, --version             Show the version"]

/-- What the program says about its version. -/
def versionText : String := "funcmeta 1.0.0"

/-- Whether the command line asked for what is said, so that nothing is wrong. -/
def isRequest : UsageError → Bool
  | help | version => true
  | _ => false

/-- The exit code of a program that runs no command. -/
def exitCode (e : UsageError) : UInt32 := if e.isRequest then 0 else 2

/-- What is said instead of running a command. -/
def message : UsageError → String
  | unknownArgument argument => s!"error: unexpected argument '{argument}'"
  | unknownVerb word => s!"error: unrecognized command '{word}'"
  | missingVerb => "error: a command is required"
  | missingPlaces places =>
    let shown := " ".intercalate (places.map Param.shown)
    s!"error: required arguments were not provided: {shown}"
  | missingValue param => s!"error: a value is required for '{param.shown}'"
  | invalidNumber param value => s!"error: invalid value '{value}' for '{param.shown}'"
  | repeated param => s!"error: '{param.shown}' cannot be used multiple times"
  | unwantedValue param value => s!"error: unexpected value '{value}' for '{param.shown}'"
  | nothing | help => "\n".intercalate summary
  | version => versionText

end UsageError

end FuncMeta
