import PendingCalls.App
import PendingCalls.CallError
import PendingCalls.Channel
import PendingCalls.CommandLine
import PendingCalls.Config
import PendingCalls.Decode
import PendingCalls.Delivery
import PendingCalls.Details
import PendingCalls.Duration
import PendingCalls.FileTree
import PendingCalls.Handle
import PendingCalls.Journal
import PendingCalls.Json.Fault
import PendingCalls.Json.Number
import PendingCalls.Json.Punctuation
import PendingCalls.Json.Reader
import PendingCalls.Json.Skip
import PendingCalls.Json.Text
import PendingCalls.Json.Typed
import PendingCalls.Json.Value
import PendingCalls.Json.Writer
import PendingCalls.Main
import PendingCalls.Panic
import PendingCalls.Payload
import PendingCalls.Registry
import PendingCalls.Rounds
import PendingCalls.Session.Actor
import PendingCalls.Session.Dispatch
import PendingCalls.Session.Library
import PendingCalls.Session.Promise
import PendingCalls.Session.Script
import PendingCalls.Session.State
import PendingCalls.Session.Submit
import PendingCalls.Session.Trampoline
import PendingCalls.Session.Wrappers
import PendingCalls.Status
import PendingCalls.StatusName
import PendingCalls.Table
import PendingCalls.Text.Quoted
import PendingCalls.Text.Shortest
import PendingCalls.Text.Utf8
import PendingCalls.Text.Visible
import PendingCalls.Workbench
import PendingCalls.Proofs.Handles
import PendingCalls.Proofs.Moves
import PendingCalls.Proofs.Motions
import PendingCalls.Proofs.Composition
import PendingCalls.Proofs.Books
import PendingCalls.Proofs.Entries
import PendingCalls.Proofs.Receivers
import PendingCalls.Proofs.Departures
import PendingCalls.Proofs.Frames
import PendingCalls.Proofs.BridgeUse
import PendingCalls.Proofs.Conservation
import PendingCalls.Proofs.DeliveryOrder
import PendingCalls.Proofs.Mailboxes
import PendingCalls.Proofs.Routes
import PendingCalls.Proofs.RouteActions
import PendingCalls.Proofs.Refinement
import PendingCalls.Proofs.Draws
import PendingCalls.Proofs.Collisions
import PendingCalls.Proofs.SubmitExits
import PendingCalls.Proofs.Ownership
import PendingCalls.Proofs.RefusedInserts
import PendingCalls.Proofs.Lifetimes
import PendingCalls.Proofs.Confinement
import PendingCalls.Proofs.Transit
import PendingCalls.Proofs.Bindings
import PendingCalls.Proofs.DetailsOrigin
import PendingCalls.Proofs.Renaming
import PendingCalls.Proofs.Equivariance
import PendingCalls.Proofs.Replays
import PendingCalls.Proofs.HandleShifts
import PendingCalls.Proofs.CounterCycle
import PendingCalls.Proofs.RegistryChannels
import PendingCalls.Proofs.KeptRegistries
import PendingCalls.Proofs.Isolation
import PendingCalls.Proofs.Timeouts
import PendingCalls.Proofs.Texts
import PendingCalls.Proofs.Documents
import PendingCalls.Proofs.LibraryWork
import PendingCalls.Proofs.Resolution
import PendingCalls.Proofs.Requests
import PendingCalls.Proofs.LossyText
import PendingCalls.Proofs.Returns
import PendingCalls.Proofs.Signatures
import PendingCalls.Proofs.Numerals
import PendingCalls.Proofs.Skipping
import PendingCalls.Proofs.Fields
import PendingCalls.Proofs.Reports
import PendingCalls.Proofs.Settings
import PendingCalls.Proofs.PayloadShapes
import PendingCalls.Proofs.Refusals
import PendingCalls.Proofs.Wallets
import PendingCalls.Proofs.JournalWrites
import PendingCalls.Proofs.Decodings
import PendingCalls.Proofs.Looks
import PendingCalls.Proofs.Slots
import PendingCalls.Proofs.LookClosure
import PendingCalls.Proofs.Calls
import PendingCalls.Proofs.Failures
import PendingCalls.Proofs.Polls
import PendingCalls.Proofs.OpenCalls
import PendingCalls.Proofs.Turns
import PendingCalls.Proofs.Results
import PendingCalls.Proofs.Wakers
import PendingCalls.Proofs.WakerPanics
import PendingCalls.Proofs.Readiness
import PendingCalls.Proofs.LogCounts
import PendingCalls.Proofs.ArrivalWarnings
import PendingCalls.Proofs.Programs
