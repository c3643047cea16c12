/-
The whole library: queries over stores of documents, answered once or live.
-/

import DocQuery.Builder
import DocQuery.Component.Basic
import DocQuery.Component.Decode
import DocQuery.Component.Encode
import DocQuery.Credentials.FilePath
import DocQuery.Credentials.Load
import DocQuery.Credentials.Settings
import DocQuery.Failure
import DocQuery.Hosted.Client
import DocQuery.Hosted.Connect
import DocQuery.Hosted.Reading
import DocQuery.Hosted.Watching
import DocQuery.Json.Printer
import DocQuery.Json.Reader
import DocQuery.Live.Delivery
import DocQuery.Live.Perform
import DocQuery.Live.Program
import DocQuery.Live.Script
import DocQuery.Live.Stream
import DocQuery.Live.Subscription
import DocQuery.Live.World
import DocQuery.Notice
import DocQuery.Number.Binary64
import DocQuery.Number.Decimal
import DocQuery.Pool.Basic
import DocQuery.Pool.Workshop
import DocQuery.Proofs.Building.Acceptance
import DocQuery.Proofs.Building.Agreement
import DocQuery.Proofs.Building.Classifying
import DocQuery.Proofs.Building.Independence
import DocQuery.Proofs.Building.Projecting
import DocQuery.Proofs.Building.Refusals
import DocQuery.Proofs.Building.Strictness
import DocQuery.Proofs.Component.Escapes
import DocQuery.Proofs.Component.Grammar
import DocQuery.Proofs.Component.RoundTrip
import DocQuery.Proofs.Credentials.Confinement
import DocQuery.Proofs.Credentials.Loading
import DocQuery.Proofs.Hosted.Agreeing
import DocQuery.Proofs.Hosted.Apps
import DocQuery.Proofs.Hosted.Calling
import DocQuery.Proofs.Hosted.Hearing
import DocQuery.Proofs.Hosted.Reading
import DocQuery.Proofs.Hosted.Relaying
import DocQuery.Proofs.Hosted.Steps
import DocQuery.Proofs.Hosted.Surfacing
import DocQuery.Proofs.Json.Integers
import DocQuery.Proofs.Json.Strings
import DocQuery.Proofs.Json.Values
import DocQuery.Proofs.Live.Arrangement
import DocQuery.Proofs.Live.Asking
import DocQuery.Proofs.Live.Calls
import DocQuery.Proofs.Live.Concern
import DocQuery.Proofs.Live.Courses
import DocQuery.Proofs.Live.Delivery
import DocQuery.Proofs.Live.Handles
import DocQuery.Proofs.Live.Isolation
import DocQuery.Proofs.Live.Keeping
import DocQuery.Proofs.Live.Lasting
import DocQuery.Proofs.Live.Leading
import DocQuery.Proofs.Live.Leftovers
import DocQuery.Proofs.Live.Lifecycle
import DocQuery.Proofs.Live.Moments
import DocQuery.Proofs.Live.Openings
import DocQuery.Proofs.Live.Passes
import DocQuery.Proofs.Live.Projecting
import DocQuery.Proofs.Live.Releasing
import DocQuery.Proofs.Live.Reports
import DocQuery.Proofs.Live.Rounds
import DocQuery.Proofs.Live.Routes
import DocQuery.Proofs.Live.Running
import DocQuery.Proofs.Live.Settling
import DocQuery.Proofs.Live.Silence
import DocQuery.Proofs.Live.SoleReader
import DocQuery.Proofs.Live.Sparing
import DocQuery.Proofs.Live.Standing
import DocQuery.Proofs.Live.Starting
import DocQuery.Proofs.Live.Stepping
import DocQuery.Proofs.Live.Steps
import DocQuery.Proofs.Live.Stranding
import DocQuery.Proofs.Live.Suiting
import DocQuery.Proofs.Live.Tracing
import DocQuery.Proofs.Live.Tying
import DocQuery.Proofs.Live.Writers
import DocQuery.Proofs.Pool.Accounting
import DocQuery.Proofs.Pool.Closing
import DocQuery.Proofs.Pool.Displacement
import DocQuery.Proofs.Pool.Endings
import DocQuery.Proofs.Pool.Obtaining
import DocQuery.Proofs.Pool.Running
import DocQuery.Proofs.Pool.Sharing
import DocQuery.Proofs.Pool.Workshop
import DocQuery.Proofs.Result.Restriction
import DocQuery.Proofs.Session.SetUp
import DocQuery.Proofs.Session.Steps
import DocQuery.Proofs.Sorting.Merge
import DocQuery.Proofs.Sorting.Order
import DocQuery.Proofs.Sorting.Relabeling
import DocQuery.Proofs.Sorting.Search
import DocQuery.Proofs.Sorting.Settled
import DocQuery.Proofs.Sorting.Stable
import DocQuery.Proofs.Store.Alike
import DocQuery.Proofs.Store.Answers
import DocQuery.Proofs.Store.Clashes
import DocQuery.Proofs.Store.Coherence
import DocQuery.Proofs.Store.Exclusion
import DocQuery.Proofs.Store.History
import DocQuery.Proofs.Store.Locations
import DocQuery.Proofs.Store.Paths
import DocQuery.Proofs.Store.Query
import DocQuery.Proofs.Store.Reads
import DocQuery.Proofs.Text.Utf8
import DocQuery.Proofs.Value.Alike
import DocQuery.Proofs.Value.Contents
import DocQuery.Proofs.Value.Limits
import DocQuery.Proofs.Value.Order
import DocQuery.Proofs.Value.Resolving
import DocQuery.Result
import DocQuery.Session
import DocQuery.Sorting.Merge
import DocQuery.Sorting.Run
import DocQuery.Sorting.Search
import DocQuery.Sorting.Stable
import DocQuery.Store.Documents
import DocQuery.Store.Query
import DocQuery.Store.Reference
import DocQuery.Store.Snapshot
import DocQuery.Text.Basic
import DocQuery.Text.CodePoint
import DocQuery.Text.Printable
import DocQuery.Text.Separated
import DocQuery.Text.Uppercase
import DocQuery.Text.Utf8
import DocQuery.Value.Basic
import DocQuery.Value.Conversion
import DocQuery.Value.Order
import DocQuery.Value.Quoted
import DocQuery.Value.Written
