import PythonAssist.Engine.Canned
import PythonAssist.Main
import PythonAssist.Schedule.Queue
import PythonAssist.Worker.Scripted
import PythonAssist.Proofs.Answer.Completion
import PythonAssist.Proofs.Answer.Hover
import PythonAssist.Proofs.Answer.SymbolStyles
import PythonAssist.Proofs.Answer.SymbolTree
import PythonAssist.Proofs.Answer.WorkspaceEdit
import PythonAssist.Proofs.Document.Clamping
import PythonAssist.Proofs.Document.LineAt
import PythonAssist.Proofs.Document.Offset
import PythonAssist.Proofs.Document.Mirror
import PythonAssist.Proofs.Diff.Operations
import PythonAssist.Proofs.Diff.Sides
import PythonAssist.Proofs.Diff.Rearrangement
import PythonAssist.Proofs.Diff.Records
import PythonAssist.Proofs.Diff.Runs
import PythonAssist.Proofs.Edit.Coalescing
import PythonAssist.Proofs.Edit.Replay
import PythonAssist.Proofs.Edit.TextEdits
import PythonAssist.Proofs.Engine.Calls
import PythonAssist.Proofs.Engine.ChangedFiles
import PythonAssist.Proofs.Engine.Discipline
import PythonAssist.Proofs.Engine.Payloads
import PythonAssist.Proofs.Json.Likeness
import PythonAssist.Proofs.Json.Records
import PythonAssist.Proofs.Json.RoundTrip
import PythonAssist.Proofs.Lint.StyleFiles
import PythonAssist.Proofs.Lint.StyleLayers
import PythonAssist.Proofs.Lint.StyleReports
import PythonAssist.Proofs.Path.Join
import PythonAssist.Proofs.Path.Order
import PythonAssist.Proofs.Schedule.Events
import PythonAssist.Proofs.Schedule.Generations
import PythonAssist.Proofs.Schedule.LastWriteWins
import PythonAssist.Proofs.Schedule.Queue
import PythonAssist.Proofs.Server.Answers
import PythonAssist.Proofs.Server.Dispatch
import PythonAssist.Proofs.Server.Lifecycle
import PythonAssist.Proofs.Server.Silence
import PythonAssist.Proofs.Server.Turns
import PythonAssist.Proofs.Session.Action
import PythonAssist.Proofs.Session.Coherence
import PythonAssist.Proofs.Session.Confinement
import PythonAssist.Proofs.Session.Handles
import PythonAssist.Proofs.Session.Interleaving
import PythonAssist.Proofs.Session.Lifetime
import PythonAssist.Proofs.Session.Oversight
import PythonAssist.Proofs.Session.Ownership
import PythonAssist.Proofs.Session.Passes
import PythonAssist.Proofs.Session.Publications
import PythonAssist.Proofs.Session.Revalidation
import PythonAssist.Proofs.Session.Staleness
import PythonAssist.Proofs.Session.StyleCache
import PythonAssist.Proofs.Session.Supersession
import PythonAssist.Proofs.Session.Uncached
import PythonAssist.Proofs.Session.Unconcerned
import PythonAssist.Proofs.Settings.Update
import PythonAssist.Proofs.Text.ByteOffsets
import PythonAssist.Proofs.Text.LineForm
import PythonAssist.Proofs.Text.Splitting
import PythonAssist.Proofs.TextEngine.CodeLines
import PythonAssist.Proofs.TextEngine.CursorSlices
import PythonAssist.Proofs.TextEngine.Frames
import PythonAssist.Proofs.TextEngine.HandlerSlices
import PythonAssist.Proofs.TextEngine.Inlining
import PythonAssist.Proofs.TextEngine.NarrowScripts
import PythonAssist.Proofs.TextEngine.Requests
import PythonAssist.Proofs.TextEngine.SearchSlices
import PythonAssist.Proofs.TextEngine.WholeWords
import PythonAssist.Proofs.TextEngine.WordSlices
import PythonAssist.Proofs.TypeCheck.Output
import PythonAssist.Proofs.Wire.Arrival
import PythonAssist.Proofs.Wire.Classification
import PythonAssist.Proofs.Wire.Faults
import PythonAssist.Proofs.Wire.Header
import PythonAssist.Proofs.Wire.Parsing
import PythonAssist.Proofs.Wire.Rounds
import PythonAssist.Proofs.Wire.RoundTrip
import PythonAssist.Proofs.Wire.Stream
import PythonAssist.Proofs.Worker.Conversation
import PythonAssist.Proofs.Worker.Link
import PythonAssist.Proofs.Worker.Tasks
import PythonAssist.Proofs.Workspace.Folders
