import FuncMeta.Outcome
import FuncMeta.Word
import FuncMeta.Text.Numeral
import FuncMeta.Text.CharClass
import FuncMeta.Address
import FuncMeta.Address.Literal
import FuncMeta.Region
import FuncMeta.Blob
import FuncMeta.Image.Error
import FuncMeta.Image.Header
import FuncMeta.Image.Record
import FuncMeta.Image.Cursor
import FuncMeta.Image.Audit
import FuncMeta.Image.Manifest
import FuncMeta.Symbol
import FuncMeta.Symbol.Index
import FuncMeta.Json
import FuncMeta.Report
import FuncMeta.Report.Text
import FuncMeta.Report.Json
import FuncMeta.Json.Scalar
import FuncMeta.Json.Skip
import FuncMeta.Json.Read
import FuncMeta.AddressRange.Json
import FuncMeta.Config
import FuncMeta.Container.Field
import FuncMeta.Container.Elf
import FuncMeta.Container.MachO
import FuncMeta.Container
import FuncMeta.Text.Case
import FuncMeta.Text.Escaped
import FuncMeta.Pattern
import FuncMeta.Pattern.Read
import FuncMeta.Log
import FuncMeta.Narration
import FuncMeta.Command
import FuncMeta.Command.Read
import FuncMeta.Command.Input
import FuncMeta.Command.Answer
import FuncMeta.Command.Run
import FuncMeta.Main
import FuncMeta.Proofs.Region.Window
import FuncMeta.Proofs.Region.Field
import FuncMeta.Proofs.Image.Acceptance
import FuncMeta.Proofs.Image.Table
import FuncMeta.Proofs.Image.Naming
import FuncMeta.Proofs.Image.Descriptor
import FuncMeta.Proofs.Image.Search
import FuncMeta.Proofs.Image.Failure
import FuncMeta.Proofs.Image.Audit
import FuncMeta.Proofs.Symbol.Listing
import FuncMeta.Proofs.Symbol.Agreement
import FuncMeta.Proofs.Symbol.CleanImage
import FuncMeta.Proofs.Truncation.Decoding
import FuncMeta.Proofs.Truncation.Answers
import FuncMeta.Proofs.Manifest.Encoding
import FuncMeta.Proofs.Manifest.Layout
import FuncMeta.Proofs.Manifest.BuiltImage
import FuncMeta.Proofs.Manifest.RoundTrip
import FuncMeta.Proofs.Symbol.Failure
import FuncMeta.Proofs.Image.Hostile
import FuncMeta.Proofs.Symbol.Inverse
import FuncMeta.Proofs.Image.Disorder
import FuncMeta.Proofs.Manifest.Verdict
import FuncMeta.Proofs.Manifest.Tables
import FuncMeta.Proofs.Image.Unsorted
import FuncMeta.Proofs.Image.Walk
import FuncMeta.Proofs.Image.NameTable
import FuncMeta.Proofs.Image.Defects
import FuncMeta.Proofs.Symbol.Shortage
import FuncMeta.Proofs.Symbol.Resemblance
import FuncMeta.Proofs.Manifest.PointerSize
import FuncMeta.Proofs.Command.Batch
import FuncMeta.Proofs.Command.RawDump
import FuncMeta.Proofs.Image.Screening
import FuncMeta.Proofs.Image.TableSpans
import FuncMeta.Proofs.Text.Numeral
import FuncMeta.Proofs.Address.Literal
import FuncMeta.Proofs.Address.Rendering
import FuncMeta.Proofs.Command.Extraction
import FuncMeta.Proofs.Json.Grammar
import FuncMeta.Proofs.Json.Scalar
import FuncMeta.Proofs.Json.Skip
import FuncMeta.Proofs.Json.Reads
import FuncMeta.Proofs.Json.Record
import FuncMeta.Proofs.Config
import FuncMeta.Proofs.AddressRange.Order
import FuncMeta.Proofs.Manifest.Writing
