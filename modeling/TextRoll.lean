import TextRoll.Notice
import TextRoll.Number.Shortest
import TextRoll.Text.Unprintable
import TextRoll.Text.Quoted
import TextRoll.Arena
import TextRoll.Policy
import TextRoll.Buffer
import TextRoll.Roll.Growing
import TextRoll.Roll.Removing
import TextRoll.Roll.Moving
import TextRoll.Answer
import TextRoll.Iteration
import TextRoll.Request
import TextRoll.Run
import TextRoll.Catalogue
import TextRoll.Proofs.Roll.Change
import TextRoll.Proofs.World.Undisturbed
import TextRoll.Proofs.Act.Reading
import TextRoll.Proofs.World.Event
import TextRoll.Proofs.World.Owned
import TextRoll.Proofs.Act.Doing
import TextRoll.Proofs.Act.Sparing
import TextRoll.Proofs.Act.Answering
import TextRoll.Proofs.World.Books
import TextRoll.Proofs.Act.Posting
import TextRoll.Proofs.World.Refusing
import TextRoll.Proofs.Act.Peeking
import TextRoll.Proofs.Act.Failing
import TextRoll.Proofs.Act.Walking
import TextRoll.Proofs.Session.Moves
import TextRoll.Proofs.Session.Events
import TextRoll.Proofs.Session.Bookmarks
import TextRoll.Proofs.Session.Slots
import TextRoll.Proofs.Session.Ownership
import TextRoll.Proofs.Content.Machine
import TextRoll.Proofs.Content.OfWorld
import TextRoll.Proofs.Content.Changing
import TextRoll.Proofs.Content.Reading
import TextRoll.Proofs.Content.Comparing
import TextRoll.Proofs.Session.Refinement
import TextRoll.Proofs.Session.Postings
import TextRoll.Proofs.Session.Scopes
import TextRoll.Proofs.Roll.Limit
import TextRoll.Proofs.Session.Atomicity
import TextRoll.Proofs.Session.Limits
import TextRoll.Proofs.Session.Placing
import TextRoll.Proofs.Session.Growths
import TextRoll.Proofs.Act.Sharing
import TextRoll.Proofs.Session.Registers
import TextRoll.Proofs.Session.Turnover
import TextRoll.Proofs.Session.Guards
import TextRoll.Proofs.World.Alike
import TextRoll.Proofs.World.Showing
import TextRoll.Proofs.Act.Agreeing
import TextRoll.Proofs.Act.AgreeingReads
import TextRoll.Proofs.Act.AgreeingRolls
import TextRoll.Proofs.Act.AgreeingRequests
import TextRoll.Proofs.Act.AgreeingKept
import TextRoll.Proofs.Session.TwoRuns
import TextRoll.Proofs.Session.Watching
import TextRoll.Proofs.Act.Observing
import TextRoll.Proofs.Session.Observers
import TextRoll.Proofs.Session.Capacities
import TextRoll.Proofs.Session.Surroundings
import TextRoll.Proofs.Roll.Powers
import TextRoll.Proofs.Roll.Removals
import TextRoll.Proofs.Roll.Verdicts
import TextRoll.Proofs.Session.Allocations
import TextRoll.Proofs.Session.Peaks
import TextRoll.Proofs.Session.Removals
import TextRoll.Proofs.Act.Comparing
import TextRoll.Proofs.Act.LeavingWalks
import TextRoll.Proofs.Session.Askings
import TextRoll.Proofs.Session.Losses
import TextRoll.Proofs.Session.LazyWalks
import TextRoll.Proofs.Roll.Parting
import TextRoll.Proofs.Session.Holding
import TextRoll.Proofs.Session.Sweeps
import TextRoll.Proofs.Session.Draining
import TextRoll.Proofs.Session.Room
import TextRoll.Proofs.Session.Indices
import TextRoll.Proofs.Act.Writing
import TextRoll.Proofs.Session.Writings
import TextRoll.Proofs.Act.Exhausting
import TextRoll.Proofs.Session.Extending
import TextRoll.Proofs.Session.Snapshots
import TextRoll.Proofs.Text.Unquoting
import TextRoll.Proofs.Text.Forms
import TextRoll.Proofs.Session.Printing
import TextRoll.Proofs.Session.Comparisons
import TextRoll.Proofs.Content.Recognizing
import TextRoll.Proofs.Policy.Fields
