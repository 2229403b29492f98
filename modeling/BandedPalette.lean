import BandedPalette.Checksum
import BandedPalette.Color
import BandedPalette.Color.Spelling
import BandedPalette.Color.Tint
import BandedPalette.Command
import BandedPalette.Command.Arguments
import BandedPalette.Command.Perform
import BandedPalette.Command.Text
import BandedPalette.Digest
import BandedPalette.Fault
import BandedPalette.Folder
import BandedPalette.Formula
import BandedPalette.Formula.Document
import BandedPalette.Formula.Fingerprint
import BandedPalette.Formula.Selector
import BandedPalette.Formula.Tables
import BandedPalette.Index
import BandedPalette.Json.Fault
import BandedPalette.Json.Number
import BandedPalette.Json.Printer
import BandedPalette.Json.Quotation
import BandedPalette.Json.Structure
import BandedPalette.Json.Value
import BandedPalette.Main
import BandedPalette.Numeral.Binary
import BandedPalette.Numeral.Places
import BandedPalette.Numeral.Reading
import BandedPalette.Numeral.Shortest
import BandedPalette.Numeral.Writing
import BandedPalette.Reference
import BandedPalette.Reference.Reader
import BandedPalette.Report
import BandedPalette.Report.Document
import BandedPalette.Report.Entry
import BandedPalette.Report.Summary
import BandedPalette.Session
import BandedPalette.Text.Blank
import BandedPalette.Text.Lines
import BandedPalette.Text.Octets
import BandedPalette.Text.Printable
import BandedPalette.Text.Quoted
import BandedPalette.Proofs.Levels
import BandedPalette.Proofs.Result
import BandedPalette.Proofs.Encoding
import BandedPalette.Proofs.Json.Grammar
import BandedPalette.Proofs.Json.Reading
import BandedPalette.Proofs.Document.Grammar
import BandedPalette.Proofs.Document.Reading
import BandedPalette.Proofs.Document.Agreement
import BandedPalette.Proofs.Json.Accepting
import BandedPalette.Proofs.Document.Accepting
import BandedPalette.Proofs.Color.Packing
import BandedPalette.Proofs.Text.Layout
import BandedPalette.Proofs.Numeral.Accepting
import BandedPalette.Proofs.Text.Cutting
import BandedPalette.Proofs.Color.Spelling
import BandedPalette.Proofs.Color.Accepting
import BandedPalette.Proofs.Reference.Reading
import BandedPalette.Proofs.Report.Agreement
import BandedPalette.Proofs.Report.Comparison
import BandedPalette.Proofs.Report.Exactness
import BandedPalette.Proofs.Report.Bands
import BandedPalette.Proofs.Command.Arguments
import BandedPalette.Proofs.Command.Performing
import BandedPalette.Proofs.Command.Effects
import BandedPalette.Proofs.Command.Failing
import BandedPalette.Proofs.Command.SelfComparison
import BandedPalette.Proofs.Command.Inserting
import BandedPalette.Proofs.Command.Redirecting
import BandedPalette.Proofs.Command.Series
import BandedPalette.Proofs.Report.Locality
import BandedPalette.Proofs.Report.Correction
import BandedPalette.Proofs.Report.Exchange
import BandedPalette.Proofs.Command.Interchange
import BandedPalette.Proofs.Color.Refusing
import BandedPalette.Proofs.Reference.Editing
import BandedPalette.Proofs.Reference.Skipping
import BandedPalette.Proofs.Numeral.Padding
import BandedPalette.Proofs.Color.Codecs
import BandedPalette.Proofs.Report.Ranking
import BandedPalette.Proofs.Report.Aggregate
import BandedPalette.Proofs.Report.Size
import BandedPalette.Proofs.Interpolation
import BandedPalette.Proofs.Palette
import BandedPalette.Proofs.Tables
import BandedPalette.Proofs.Fingerprint
import BandedPalette.Proofs.Checksum.Register
import BandedPalette.Proofs.Checksum.Period
import BandedPalette.Proofs.Checksum.Edits
import BandedPalette.Proofs.Color.Tint
import BandedPalette.Proofs.Numeral.Columns
import BandedPalette.Proofs.Command.Inspection
