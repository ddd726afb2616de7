import DebugLens.Assembly.DisplayName
import DebugLens.Import.VisualBasic
import DebugLens.Main
import DebugLens.Proofs.Bytes
import DebugLens.Proofs.CustomInfo.Layout
import DebugLens.Proofs.Import.CSharpNotation
import DebugLens.Proofs.Import.Grouping
import DebugLens.Proofs.InfoCache.Transparency
import DebugLens.Proofs.Number.RoundingEnd
import DebugLens.Proofs.Session.Loading
import DebugLens.Session.Completion
import DebugLens.Proofs.Constant.Overflow
import DebugLens.Proofs.MethodInfo.Failure
import DebugLens.Proofs.Assembly.Components
import DebugLens.Proofs.Assembly.Properties
import DebugLens.Proofs.Text.Numeral
import DebugLens.Proofs.Assembly.Printed
import DebugLens.Proofs.Assembly.Reprint
import DebugLens.Proofs.Scope.Neighbourhood
import DebugLens.Proofs.InfoCache.Bookkeeping
import DebugLens.Proofs.Import.Provenance
import DebugLens.Proofs.Signature.Encoding
import DebugLens.Proofs.Signature.Locals
import DebugLens.Proofs.Text.Utf16
import DebugLens.Proofs.CustomInfo.FirstRecord
import DebugLens.Proofs.CustomInfo.Entries
import DebugLens.Proofs.MethodInfo.HoistedScopes
import DebugLens.Proofs.DynamicFlags.Buckets
import DebugLens.Proofs.DynamicFlags.Attribution
import DebugLens.Proofs.DynamicFlags.Maps
import DebugLens.Proofs.Import.VisualBasicNotation
import DebugLens.Proofs.Assembly.WellFormed
import DebugLens.Proofs.Assembly.Delimited
import DebugLens.Proofs.Assembly.PropertyOrder
import DebugLens.Proofs.Scope.SlotNames
import DebugLens.Proofs.Scope.Agreement
import DebugLens.Proofs.Constant.Isolation
import DebugLens.Proofs.Calendar.Elapsed
import DebugLens.Proofs.Calendar.Instants
import DebugLens.Proofs.Constant.TwosComplement
import DebugLens.Proofs.Constant.TickCounts
import DebugLens.Proofs.Import.Inquiry
import DebugLens.Proofs.Signature.SelfDelimiting
import DebugLens.Proofs.Import.ForwardChains
import DebugLens.Proofs.MethodInfo.CSharpRecords
import DebugLens.Proofs.MethodInfo.BasicRecords
import DebugLens.Proofs.MethodInfo.Versions
import DebugLens.Proofs.CustomInfo.StateMachineName
import DebugLens.Proofs.Text.LiteralWords
import DebugLens.Proofs.Session.Completion
import DebugLens.Proofs.Text.TrimmedWords
import DebugLens.Proofs.Session.CommandLine
import DebugLens.Proofs.Text.IntegerText
import DebugLens.Proofs.Dump.Written
import DebugLens.Proofs.Dump.RoundTrip
import DebugLens.Proofs.Signature.ShortestForm
import DebugLens.Proofs.Signature.Qualification
import DebugLens.Proofs.Signature.EntryOrder
import DebugLens.Proofs.Session.Continuation
import DebugLens.Proofs.Text.TokenNotation
import DebugLens.Proofs.Session.TokenCompletion
