import Narrative.CommandLine
import Narrative.Decimal
import Narrative.Digest
import Narrative.Director
import Narrative.Duration
import Narrative.FileTree
import Narrative.History
import Narrative.Json.Decoder
import Narrative.Json.Flaw
import Narrative.Json.Reader
import Narrative.Json.Scalar
import Narrative.Json.Tree
import Narrative.Json.Value
import Narrative.Lint
import Narrative.Lint.Config
import Narrative.Lint.Flow
import Narrative.Lint.Protocol
import Narrative.Lint.Quality
import Narrative.Lint.References
import Narrative.Lint.Report
import Narrative.Log
import Narrative.Main
import Narrative.Names
import Narrative.Player
import Narrative.Position
import Narrative.Runner
import Narrative.Save
import Narrative.Script
import Narrative.ScriptFile
import Narrative.ScriptText
import Narrative.Session
import Narrative.State
import Narrative.Text.Blank
import Narrative.Text.Quoted
import Narrative.Text.Typed
import Narrative.Text.Utf8
import Narrative.Wire.Lint
import Narrative.Wire.Runner
import Narrative.Wire.Script
import Narrative.Wire.State
import Narrative.Proofs.Walks
import Narrative.Proofs.Branches
import Narrative.Proofs.Course
import Narrative.Proofs.Lockstep
import Narrative.Proofs.Settling
import Narrative.Proofs.Undo
import Narrative.Proofs.Snapshots
import Narrative.Proofs.Passage
import Narrative.Proofs.Copies
import Narrative.Proofs.Exploration
import Narrative.Proofs.Rounds
import Narrative.Proofs.Running
import Narrative.Proofs.FlowLint
import Narrative.Proofs.Games
import Narrative.Proofs.ProtocolLint
import Narrative.Proofs.Splitting
import Narrative.Proofs.Budgets
import Narrative.Proofs.Logging
import Narrative.Proofs.Markers
import Narrative.Proofs.Prompts
import Narrative.Proofs.PlayLoop
import Narrative.Proofs.GoingBack
import Narrative.Proofs.Replay
import Narrative.Proofs.Scalars
import Narrative.Proofs.Layouts
import Narrative.Proofs.Values
import Narrative.Proofs.Decoding
import Narrative.Proofs.Reordering
import Narrative.Proofs.ScriptTexts
import Narrative.Proofs.Refusing
import Narrative.Proofs.ClosedNames
import Narrative.Proofs.Saves
import Narrative.Proofs.Memory
import Narrative.Proofs.Mirrors
import Narrative.Proofs.DeadSteps
import Narrative.Proofs.ReferenceLint
import Narrative.Proofs.Unawaited
import Narrative.Proofs.DeadEnds
import Narrative.Proofs.Resuming
import Narrative.Proofs.Findings
import Narrative.Proofs.Timeouts
import Narrative.Proofs.Series
import Narrative.Proofs.Forgetting
import Narrative.Proofs.WireValues
import Narrative.Proofs.Reachability
