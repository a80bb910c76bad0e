import Screencast.Effect.Answer
import Screencast.Effect.Report
import Screencast.Guard
import Screencast.Main
import Screencast.Reference
import Screencast.Store.Succession
import Screencast.Proofs.Serve.Thread
import Screencast.Proofs.Site.Route
import Screencast.Proofs.Serve.Fleet
import Screencast.Proofs.Effect.Finds
import Screencast.Proofs.Account.Resolve
import Screencast.Proofs.Http.Response
import Screencast.Proofs.Serve.Alone
import Screencast.Proofs.Effect.OnTables
import Screencast.Proofs.Serve.Agreement
import Screencast.Proofs.Store.Merge
import Screencast.Proofs.Store.Record
import Screencast.Proofs.Account.User
import Screencast.Proofs.Store.Keyed
import Screencast.Proofs.Site.BillingNotices
import Screencast.Proofs.Site.Revisions
import Screencast.Proofs.Site.Deliveries
import Screencast.Proofs.Serve.Schedule
import Screencast.Proofs.Effect.Discretion
import Screencast.Proofs.Site.Discretion
import Screencast.Proofs.Store.Faithful
import Screencast.Proofs.Account.Faithful
import Screencast.Proofs.Site.Faithful
import Screencast.Proofs.Store.Shelf
import Screencast.Proofs.Site.Ledger
import Screencast.Proofs.Effect.Within
import Screencast.Proofs.Site.GiftOnRecord
import Screencast.Proofs.Site.Attempts
import Screencast.Proofs.Effect.Interleaved
import Screencast.Proofs.Effect.Uninterrupted
import Screencast.Proofs.Site.Standing
import Screencast.Proofs.Site.Overrun
import Screencast.Proofs.Site.UnderWay
import Screencast.Proofs.Site.Concurrent
import Screencast.Proofs.Effect.Unseen
import Screencast.Proofs.Site.Unreleased
import Screencast.Proofs.Effect.OnStubs
import Screencast.Proofs.Account.Cookie
import Screencast.Proofs.Account.Accounts
import Screencast.Proofs.Site.SignIn
import Screencast.Proofs.Site.SignIns
import Screencast.Proofs.Site.Registering
import Screencast.Proofs.Site.Overtaken
import Screencast.Proofs.Site.Destination
import Screencast.Proofs.Site.SignInLinks
import Screencast.Proofs.Site.RoundTrip
import Screencast.Proofs.Http.Sendable
import Screencast.Proofs.Effect.Passage
import Screencast.Proofs.Serve.Turn
import Screencast.Proofs.Effect.Sends
import Screencast.Proofs.Serve.Sends
import Screencast.Proofs.Site.Redirects
import Screencast.Proofs.Serve.Unwritable
import Screencast.Proofs.Effect.Composition
import Screencast.Proofs.Effect.Cleanups
import Screencast.Proofs.Serve.Cleanups
import Screencast.Proofs.Effect.Apart
import Screencast.Proofs.Effect.Rehearsal
import Screencast.Proofs.Serve.Ensemble
import Screencast.Proofs.Serve.Quiet
import Screencast.Proofs.Serve.Shadow
import Screencast.Proofs.Serve.Steps
import Screencast.Proofs.Serve.Detached
import Screencast.Proofs.Serve.InTurn
import Screencast.Proofs.Html.Markup
import Screencast.Proofs.Html.ReadBack
import Screencast.Proofs.Html.Attributes
import Screencast.Proofs.Site.Player
import Screencast.Proofs.Serve.Reading
import Screencast.Proofs.Account.Visitors
import Screencast.Proofs.Site.Paywall
import Screencast.Proofs.Effect.Looks
import Screencast.Proofs.Site.Looks
import Screencast.Proofs.Effect.Amid
import Screencast.Proofs.Site.Refreshes
import Screencast.Proofs.Effect.Tracing
import Screencast.Proofs.Serve.Tracing
import Screencast.Proofs.Serve.Transparency
import Screencast.Proofs.Site.WrittenBack
import Screencast.Proofs.Effect.Undisturbed
import Screencast.Proofs.Site.Interleavings
import Screencast.Proofs.Site.DifferentRows
import Screencast.Proofs.Json.Literals
import Screencast.Proofs.Json.Reading
import Screencast.Proofs.Json.Written
import Screencast.Proofs.Store.Snapshot
import Screencast.Proofs.Json.Shapes
import Screencast.Proofs.Html.Strips
import Screencast.Proofs.Site.Feed
import Screencast.Proofs.Site.Listings
import Screencast.Proofs.Effect.Serves
import Screencast.Proofs.Site.Views
import Screencast.Proofs.Site.PageLinks
import Screencast.Proofs.Store.Ordering
import Screencast.Proofs.Site.Privacy
import Screencast.Proofs.Http.Paths
import Screencast.Proofs.Site.Files
import Screencast.Proofs.Store.Waiting
import Screencast.Proofs.Store.Books
import Screencast.Proofs.Store.Line
import Screencast.Proofs.Store.Turns
import Screencast.Proofs.Decimal.Nearest
import Screencast.Proofs.Store.Comparing
import Screencast.Proofs.Store.Selecting
import Screencast.Proofs.Site.OpenEpisodes
import Screencast.Proofs.Effect.Calls
import Screencast.Proofs.Html.Introspection
import Screencast.Proofs.Serve.Awaiting
import Screencast.Proofs.Serve.Halting
import Screencast.Proofs.Config.Connections
import Screencast.Proofs.Store.Placeholders
import Screencast.Proofs.Url.Escapes
