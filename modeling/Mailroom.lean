import Mailroom.Logging
import Mailroom.Script
import Mailroom.Engine.Observer
import Mailroom.Engine.Request
import Mailroom.Proofs.Timer.Ledger
import Mailroom.Proofs.Exchange.Ownership
import Mailroom.Proofs.Exchange.Interleaving
import Mailroom.Proofs.Exchange.Operations
import Mailroom.Proofs.Directory.Placement
import Mailroom.Proofs.Engine.Frames
import Mailroom.Proofs.Engine.Moves
import Mailroom.Proofs.Engine.Soundness
import Mailroom.Proofs.Engine.Steps
import Mailroom.Proofs.Engine.Runs
import Mailroom.Proofs.Engine.Scheduling
import Mailroom.Proofs.Engine.Conservation
import Mailroom.Proofs.Directory.History
import Mailroom.Proofs.Directory.Naming
import Mailroom.Proofs.Engine.Entries
import Mailroom.Proofs.Engine.Guests
import Mailroom.Proofs.Engine.Observers
import Mailroom.Proofs.Engine.Batches
import Mailroom.Proofs.Engine.Retirement
import Mailroom.Proofs.Directory.Reissue
import Mailroom.Proofs.Engine.Appends
import Mailroom.Proofs.Engine.Rounds
import Mailroom.Proofs.Engine.Aftermath
import Mailroom.Proofs.Text.Numeral
import Mailroom.Proofs.Address.RoundTrip
import Mailroom.Proofs.Address.Grammar
import Mailroom.Proofs.DeadLetter.Office
import Mailroom.Proofs.Engine.Sparing
import Mailroom.Proofs.Engine.FailedLaunch
import Mailroom.Proofs.Exchange.Capacity
import Mailroom.Proofs.Exchange.Sleepers
import Mailroom.Proofs.Engine.Likeness
import Mailroom.Proofs.Engine.Growth
import Mailroom.Proofs.Directory.Doubling
import Mailroom.Proofs.Engine.Sends
import Mailroom.Proofs.Engine.Passages
import Mailroom.Proofs.Engine.Containment
import Mailroom.Proofs.Engine.Idling
import Mailroom.Proofs.Engine.Deeds
import Mailroom.Proofs.Engine.Belongings
import Mailroom.Proofs.Engine.Callbacks
import Mailroom.Proofs.Engine.Legs
import Mailroom.Proofs.Engine.Sessions
import Mailroom.Proofs.Engine.Clock
import Mailroom.Proofs.Text.Trimming
import Mailroom.Proofs.Text.Decimal
import Mailroom.Proofs.Command.Numbers
import Mailroom.Proofs.Command.NormalForm
import Mailroom.Proofs.Engine.Registration
import Mailroom.Proofs.Queue.Unbounded
import Mailroom.Proofs.Failure.Causes
import Mailroom.Proofs.Timer.Buckets
