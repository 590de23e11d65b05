import RaceBook.Amount
import RaceBook.Archive
import RaceBook.Archive.Record
import RaceBook.Arithmetic
import RaceBook.Arithmetic.Double
import RaceBook.Battle
import RaceBook.Calendar.Date
import RaceBook.Calendar.Moment
import RaceBook.Command.ClosePeriod
import RaceBook.Command.Job
import RaceBook.Command.Leaderboard
import RaceBook.Command.Log
import RaceBook.Command.Options
import RaceBook.Command.Report
import RaceBook.Command.Settle
import RaceBook.Config.Basic
import RaceBook.Config.Fault
import RaceBook.Config.Load
import RaceBook.Fault
import RaceBook.Fault.Message
import RaceBook.Glicko.Expected
import RaceBook.Glicko.Parameters
import RaceBook.Glicko.Update
import RaceBook.Glicko.Volatility
import RaceBook.Ledger
import RaceBook.Main
import RaceBook.Number.Binary
import RaceBook.Number.Decimal
import RaceBook.Number.Notation
import RaceBook.Number.Numeral
import RaceBook.Operation
import RaceBook.Player
import RaceBook.Pool
import RaceBook.Proofs.Event
import RaceBook.Proofs.Ledger.Account
import RaceBook.Proofs.Ledger.Currency
import RaceBook.Proofs.Ledger.Posting
import RaceBook.Proofs.Lists
import RaceBook.Proofs.Operations
import RaceBook.Proofs.Pool.Apportionment
import RaceBook.Proofs.Race.Ended
import RaceBook.Proofs.Race.Reports
import RaceBook.Proofs.Rating.Chain
import RaceBook.Proofs.Rating.Closing
import RaceBook.Proofs.Rating.Latest
import RaceBook.Proofs.Rating.Periods
import RaceBook.Proofs.Rating.Replay
import RaceBook.Proofs.Rating.Simultaneous
import RaceBook.Proofs.Rating.Snapshots
import RaceBook.Proofs.Rating.Windows
import RaceBook.Proofs.Settlement.Once
import RaceBook.Proofs.Settlement.Paid
import RaceBook.Proofs.Settlement.Payment
import RaceBook.Proofs.Store.Rows
import RaceBook.Proofs.Store.Sessions
import RaceBook.Proofs.Wager.Placing
import RaceBook.Race.Outcome
import RaceBook.Race.Team
import RaceBook.Race.Victor
import RaceBook.Rating.CatchUp
import RaceBook.Rating.Close
import RaceBook.Rating.Latest
import RaceBook.Rating.Leaderboard
import RaceBook.Rating.Matchup
import RaceBook.Rating.Period
import RaceBook.Rating.Preview
import RaceBook.Rating.Snapshot
import RaceBook.Settlement
import RaceBook.Settlement.Batch
import RaceBook.Sorting
import RaceBook.Store.Book
import RaceBook.Store.Session
import RaceBook.Store.Standing
import RaceBook.Store.Table
import RaceBook.Text.Blank
import RaceBook.Text.Capitals
import RaceBook.Text.DecimalDigit
import RaceBook.Text.Plain
import RaceBook.Text.Printable
import RaceBook.Text.Quoted
import RaceBook.Toml.Document
import RaceBook.Toml.Figure
import RaceBook.Toml.Render
import RaceBook.Toml.Scanner
import RaceBook.Toml.Text
import RaceBook.Toml.Tree
import RaceBook.Toml.Value
import RaceBook.Wager
import RaceBook.Proofs.Wager.Terms
import RaceBook.Proofs.Settlement.Audit
import RaceBook.Proofs.Store.References
import RaceBook.Proofs.Store.Refusals
import RaceBook.Proofs.Rating.Succession
import RaceBook.Proofs.Rating.Overlay
import RaceBook.Proofs.Rating.Early
import RaceBook.Proofs.Rating.CatchUp
import RaceBook.Proofs.Rating.Schedule
import RaceBook.Proofs.Rating.Cache
import RaceBook.Proofs.Rating.Preview
import RaceBook.Proofs.Settlement.Effect
import RaceBook.Proofs.Settlement.Total
import RaceBook.Proofs.Settlement.Frozen
import RaceBook.Proofs.Pool.Remainders
import RaceBook.Proofs.Settlement.Deltas
import RaceBook.Proofs.Rating.Retry
import RaceBook.Proofs.Rating.Recorded
import RaceBook.Proofs.Pool.Fairness
import RaceBook.Proofs.Pool.Order
import RaceBook.Proofs.Rating.Elapsed
import RaceBook.Proofs.Double.Reading
import RaceBook.Proofs.Double.Rounding
import RaceBook.Proofs.Double.Operations
import RaceBook.Proofs.Double.Ticks
import RaceBook.Proofs.Config.Accepted
import RaceBook.Proofs.Rating.Progress
import RaceBook.Proofs.Config.Bounds
import RaceBook.Proofs.Rating.HeadToHead
import RaceBook.Proofs.Wager.Acceptance
import RaceBook.Proofs.Race.Victors
import RaceBook.Proofs.Player.Identities
import RaceBook.Proofs.Command.Settle
import RaceBook.Proofs.Rating.Band
import RaceBook.Proofs.Glicko.Exact
import RaceBook.Proofs.Glicko.Bracketing
import RaceBook.Proofs.Rating.Kept
import RaceBook.Proofs.Rating.Leaderboard
import RaceBook.Proofs.Command.Leaderboard
