import Recurrence.Main
import Recurrence.Proofs.Query.Excerpt
import Recurrence.Proofs.Query.RoundTrip
import Recurrence.Query.Written
import Recurrence.Session
import Recurrence.Source.Cursor
import Recurrence.Proofs.Query.Outcome
import Recurrence.Proofs.Block.Phrase
import Recurrence.Proofs.Block.Append
import Recurrence.Proofs.Calendar.Later
import Recurrence.Proofs.Query.Later
import Recurrence.Proofs.Query.Calls
import Recurrence.Proofs.Calendar.Nearest
import Recurrence.Proofs.Calendar.Spill
import Recurrence.Proofs.Query.Place
import Recurrence.Proofs.Underline
import Recurrence.Proofs.Token.Spacing
import Recurrence.Proofs.Block.Line
import Recurrence.Proofs.Query.Refusal
import Recurrence.Proofs.Block.Batch
import Recurrence.Proofs.Query.Stuck
import Recurrence.Proofs.Token.Code
import Recurrence.Proofs.Comment.Division
import Recurrence.Proofs.Comment.Origin
import Recurrence.Proofs.Calendar.Successive
import Recurrence.Proofs.Query.Alternatives
import Recurrence.Proofs.Query.Opening
import Recurrence.Proofs.Source.Cursor
import Recurrence.Proofs.Source.Span
import Recurrence.Proofs.Query.Visits
import Recurrence.Proofs.Block.Case
import Recurrence.Proofs.CommandLine.Permission
