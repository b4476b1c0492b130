import FuncMeta.Address
import FuncMeta.Json.Read
import FuncMeta.Json

/-!
# Configurations

A configuration holds what the command line may leave open. It is read from JSON, where every field
may be missing, and has to be valid.
-/

namespace FuncMeta

/-- What is not given on the command line. -/
structure Config where
  /-- The address that a raw dump is mapped at. -/
  baseAddress : Option Address := none
  /-- The sections that may hold the image; of those present, the earliest in the list does. -/
  sectionNames : List String := [".gopclntab", "__gopclntab"]
  /-- Whether names are resolved through an index. -/
  useIndex : Bool := false
  /-- The least number of digits in an address that is shown. -/
  addressWidth : UInt64 := 16
deriving DecidableEq, Repr

namespace Config

/-- Why a configuration is not valid. -/
inductive Defect where
  /-- There is no section name. -/
  | noSectionName
  /-- A section name is empty. -/
  | emptySectionName
  /-- An address would have no digit or more than a word has. -/
  | addressWidth
deriving DecidableEq, Repr

/-- The text of a defect. -/
def Defect.message : Defect → String
  | noSectionName => "section_names must name at least one section"
  | emptySectionName => "section_names must not contain empty names"
  | addressWidth => "address_width must be between 1 and 16"

/-- The first defect of a configuration. -/
def defect? (c : Config) : Option Defect :=
  if c.sectionNames.isEmpty then some .noSectionName
  else if c.sectionNames.any (·.isEmpty) then some .emptySectionName
  else if c.addressWidth = 0 ∨ 16 < c.addressWidth then some .addressWidth
  else none

/-- The configuration as a value. -/
def toJson (c : Config) : Json :=
  .object [
    ("base_address", .ofOption (fun a ↦ .nat a.toNat) c.baseAddress),
    ("section_names", .list (c.sectionNames.map .text)),
    ("use_index", .bool c.useIndex),
    ("address_width", .nat c.addressWidth.toNat)]

/-- The fields of a configuration that a text has given so far. -/
structure Draft where
  /-- The base address, which may be given as null. -/
  baseAddress : Option (Option Address) := none
  /-- The section names. -/
  sectionNames : Option (List String) := none
  /-- Whether to use an index. -/
  useIndex : Option Bool := none
  /-- The number of digits. -/
  addressWidth : Option UInt64 := none
deriving DecidableEq, Repr

/-- The configuration of a draft: fields that are missing have their defaults. -/
def Draft.complete (d : Draft) : Config :=
  let defaults : Config := {}
  { baseAddress := d.baseAddress.getD defaults.baseAddress
    sectionNames := d.sectionNames.getD defaults.sectionNames
    useIndex := d.useIndex.getD defaults.useIndex
    addressWidth := d.addressWidth.getD defaults.addressWidth }

/-- The fields, in the order in which a list gives them. -/
def fields : List (Json.Field Draft) :=
  [{ name := "base_address"
     isSet := fun d ↦ d.baseAddress.isSome
     read := fun cs ↦ (Json.readNullable Json.readWord cs).map fun (word, rest) ↦
      (fun d ↦ { d with baseAddress := some (word.map Address.mk) }, rest) },
   { name := "section_names"
     isSet := fun d ↦ d.sectionNames.isSome
     read := fun cs ↦ (Json.readList Json.readText cs).map fun (names, rest) ↦
      (fun d ↦ { d with sectionNames := some names }, rest) },
   { name := "use_index"
     isSet := fun d ↦ d.useIndex.isSome
     read := fun cs ↦ (Json.readBool cs).map fun (value, rest) ↦
      (fun d ↦ { d with useIndex := some value }, rest) },
   { name := "address_width"
     isSet := fun d ↦ d.addressWidth.isSome
     read := fun cs ↦ (Json.readWord cs).map fun (word, rest) ↦
      (fun d ↦ { d with addressWidth := some word }, rest) }]

/-- The configuration that a JSON text holds, valid or not. -/
def ofJson (text : String) : Except Json.Fault Config :=
  Draft.complete <$> Json.readAll (Json.readRecord fields {}) text

/-- Why a configuration could not be loaded. -/
inductive LoadError where
  /-- The system refused the file. -/
  | io (reason : String)
  /-- The text holds no configuration. -/
  | parse (fault : Json.Fault)
  /-- The configuration is not valid. -/
  | invalid (defect : Defect)
deriving DecidableEq, Repr

/-- The bytes of a file as text. -/
def textOf (bytes : ByteArray) : Except LoadError String :=
  match String.fromUTF8? bytes with
  | some text => .ok text
  | none => .error (.io "stream did not contain valid UTF-8")

/-- The configuration in a file with the given bytes. -/
def load (bytes : ByteArray) : Except LoadError Config := do
  let text ← textOf bytes
  let config ← (ofJson text).mapError .parse
  match config.defect? with
  | some defect => .error (.invalid defect)
  | none => .ok config

namespace LoadError

/-- The text of a fault in a JSON text. -/
def faultText : Json.Fault → String
  | .malformed => "malformed JSON"
  | .truncated => "unexpected end of JSON"
  | .mismatch => "JSON value of another kind"

/-- The text of a failure. -/
def message : LoadError → String
  | io reason => s!"Failed to read config: {reason}"
  | parse fault => s!"Failed to parse config: {faultText fault}"
  | invalid defect => s!"Invalid config: {defect.message}"

end LoadError

end Config

end FuncMeta
