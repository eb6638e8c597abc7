import LongPoll.Broker
import LongPoll.Channel.Directory
import LongPoll.CommandLine
import LongPoll.Http.Server
import LongPoll.Job
import LongPoll.Log.Control
import LongPoll.Main
import LongPoll.Parameter
import LongPoll.Settings.Server
import LongPoll.Storage.Configured
import LongPoll.Proofs.Engine.Log
import LongPoll.Proofs.Engine.Chronicle
import LongPoll.Proofs.Engine.Ledger
import LongPoll.Proofs.Engine.Delivery
import LongPoll.Proofs.Engine.Retention
import LongPoll.Proofs.Engine.Ringing
import LongPoll.Proofs.Engine.Serving
import LongPoll.Proofs.Engine.Hosts
import LongPoll.Proofs.Engine.Waiting
import LongPoll.Proofs.Engine.Uninterrupted
import LongPoll.Proofs.Engine.Pending
import LongPoll.Proofs.Merge.Backends
import LongPoll.Proofs.Merge.Cancellation
import LongPoll.Proofs.Merge.History
import LongPoll.Proofs.Merge.Outcome
import LongPoll.Proofs.Merge.Mirror
import LongPoll.Proofs.Storage.FanOut
import LongPoll.Proofs.Storage.Revocation
import LongPoll.Proofs.Storage.Aggregation
import LongPoll.Proofs.Storage.Guarantee
import LongPoll.Proofs.Storage.Steady
import LongPoll.Proofs.Storage.Configured
import LongPoll.Proofs.Http.Handling
import LongPoll.Proofs.Http.Service
import LongPoll.Proofs.Storage.Reliable
import LongPoll.Proofs.Http.AllOrNothing
import LongPoll.Proofs.Storage.Losses
import LongPoll.Proofs.Merge.Conservation
import LongPoll.Proofs.Http.Conservation
import LongPoll.Proofs.Channel.Recall
import LongPoll.Proofs.Storage.Operation
import LongPoll.Proofs.Storage.Forgetting
import LongPoll.Proofs.Storage.Collection
import LongPoll.Proofs.Storage.Blindness
import LongPoll.Proofs.Storage.Masking
import LongPoll.Proofs.Http.Disclosure
import LongPoll.Proofs.Http.Admission
import LongPoll.Proofs.Storage.Garbage
import LongPoll.Proofs.Storage.Bare
import LongPoll.Proofs.Storage.Undecorated
import LongPoll.Proofs.Storage.Transparency
import LongPoll.Proofs.Settings.RoundTrip
import LongPoll.Proofs.Channel.Resolution
import LongPoll.Proofs.Time.Grammar
import LongPoll.Proofs.Settings.Durations
import LongPoll.Proofs.Pattern.Matching
import LongPoll.Proofs.Pattern.Continuation
import LongPoll.Proofs.Pattern.Anchoring
import LongPoll.Proofs.Settings.Construction
import LongPoll.Proofs.Engine.Passes
