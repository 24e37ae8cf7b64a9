import Tabscript.Address
import Tabscript.Build
import Tabscript.Call
import Tabscript.Call.Parser
import Tabscript.Capture
import Tabscript.Catalog
import Tabscript.CommandLine
import Tabscript.CommandLine.Parser
import Tabscript.Config
import Tabscript.Decimal.Shortest
import Tabscript.Execution
import Tabscript.Fault
import Tabscript.FileTree
import Tabscript.Http
import Tabscript.Http.MediaType
import Tabscript.Json.Decode
import Tabscript.Json.Draft
import Tabscript.Json.Numeral
import Tabscript.Json.Reader
import Tabscript.Json.Value
import Tabscript.Machine
import Tabscript.Main
import Tabscript.Operation
import Tabscript.Operation.Check
import Tabscript.Outcome
import Tabscript.Outcome.Payload
import Tabscript.Path
import Tabscript.Pipeline
import Tabscript.Plan
import Tabscript.Program
import Tabscript.Proofs.TokenStream
import Tabscript.Script
import Tabscript.Session
import Tabscript.Source
import Tabscript.Submission
import Tabscript.Text.Blank
import Tabscript.Text.Decimal
import Tabscript.Text.Hidden
import Tabscript.Text.Lines
import Tabscript.Text.Quoted
import Tabscript.Text.Utf8
import Tabscript.Token
import Tabscript.Token.Cursor
import Tabscript.Token.Lexer
import Tabscript.Workspace
import Tabscript.Proofs.CallGrammar
import Tabscript.Proofs.ArgumentSlots
import Tabscript.Proofs.RenderedCalls
import Tabscript.Proofs.ScriptTranslation
import Tabscript.Proofs.CapturedStreams
import Tabscript.Proofs.HostTranscript
import Tabscript.Proofs.RequestOutcome
import Tabscript.Proofs.RequestCourse
import Tabscript.Proofs.WrittenCalls
import Tabscript.Proofs.WorkspaceIsolation
import Tabscript.Proofs.WorkspaceHygiene
import Tabscript.Proofs.ScriptComposition
import Tabscript.Proofs.NumeralReadings
import Tabscript.Proofs.CallVerdicts
import Tabscript.Proofs.NumericArguments
import Tabscript.Proofs.EmittedProgram
import Tabscript.Proofs.NumberTokens
import Tabscript.Proofs.ProgramText
import Tabscript.Proofs.LineEndings
import Tabscript.Proofs.LossyReadings
import Tabscript.Proofs.QuotedArguments
import Tabscript.Proofs.OffendingTokens
import Tabscript.Proofs.SubmittedScripts
import Tabscript.Proofs.Retranslation
import Tabscript.Proofs.LexedLines
import Tabscript.Proofs.JsonTexts
import Tabscript.Proofs.ShownArguments
import Tabscript.Proofs.WrittenJson
import Tabscript.Proofs.RevisedRecords
import Tabscript.Proofs.PartialConfigurations
import Tabscript.Proofs.OutcomePayloads
import Tabscript.Proofs.CursorCalls
import Tabscript.Proofs.EmptyLines
