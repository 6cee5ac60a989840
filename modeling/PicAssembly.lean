import PicAssembly.Formatting
import PicAssembly.Script.Basic
import PicAssembly.CommandLine.Run
import PicAssembly.Value.Order
import PicAssembly.Proofs.Following
import PicAssembly.Proofs.Members
import PicAssembly.Session.Drive
import PicAssembly.Vocabulary
import PicAssembly.Proofs.Sessions
import PicAssembly.Proofs.Growth
import PicAssembly.Proofs.EndMarker
import PicAssembly.Proofs.Finalization
import PicAssembly.Proofs.CommandTable
import PicAssembly.Proofs.Reading
import PicAssembly.Proofs.Adding
import PicAssembly.Proofs.CommandReading
import PicAssembly.Proofs.Replay
import PicAssembly.Proofs.Builder
import PicAssembly.Proofs.Conditions
import PicAssembly.Proofs.Skipping
import PicAssembly.Proofs.Openness
import PicAssembly.Proofs.Moves
import PicAssembly.Proofs.Nesting
import PicAssembly.Proofs.Structured
import PicAssembly.Proofs.ConstantsScopes
import PicAssembly.Proofs.Unwinding
import PicAssembly.Proofs.BlockCalls
import PicAssembly.Proofs.Entries
import PicAssembly.Proofs.LastCommand
import PicAssembly.Proofs.Names
import PicAssembly.Proofs.Brackets
import PicAssembly.Proofs.Places
import PicAssembly.Proofs.Balancing
import PicAssembly.Proofs.Bracketing
import PicAssembly.Proofs.Failing
import PicAssembly.Proofs.Defining
import PicAssembly.Proofs.LineBreaks
import PicAssembly.Proofs.Operands
import PicAssembly.Proofs.SingleLines
import PicAssembly.Proofs.FileTrees
import PicAssembly.Proofs.Recording
import PicAssembly.Proofs.Delays
import PicAssembly.Proofs.Selecting
import PicAssembly.Proofs.Capitals
import PicAssembly.Proofs.Labels
import PicAssembly.Proofs.DelayCounts
import PicAssembly.Proofs.PinMappings
import PicAssembly.Proofs.PinLines
import PicAssembly.Proofs.Requests
import PicAssembly.Proofs.Literals
import PicAssembly.Proofs.CommandRuns
import PicAssembly.Proofs.OutputPaths
import PicAssembly.Proofs.ReplayedTexts
import PicAssembly.Proofs.SingleLineRuns
import PicAssembly.Recorded.Action
import PicAssembly.Recorded.Comment
import PicAssembly.Proofs.Stages
