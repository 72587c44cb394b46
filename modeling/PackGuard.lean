import PackGuard.Actuator
import PackGuard.Alarm
import PackGuard.Balance
import PackGuard.Calibration
import PackGuard.Clock
import PackGuard.Command.Answer
import PackGuard.Command.Arguments
import PackGuard.Command.Session
import PackGuard.Config.CalibrationTable
import PackGuard.Config.Check
import PackGuard.Config.Decode
import PackGuard.Config.Load
import PackGuard.Config.Resolve
import PackGuard.Config.Schema
import PackGuard.Contactor
import PackGuard.Controller
import PackGuard.Describe
import PackGuard.Energy
import PackGuard.Engine
import PackGuard.Event
import PackGuard.Failure
import PackGuard.Inspect
import PackGuard.KeepAlive
import PackGuard.Label
import PackGuard.Main
import PackGuard.Nominal
import PackGuard.Number.Binary
import PackGuard.Number.Decimal
import PackGuard.Number.Shortest
import PackGuard.Pack
import PackGuard.Period
import PackGuard.Poll
import PackGuard.Ranked
import PackGuard.Report
import PackGuard.Run
import PackGuard.Scheduler
import PackGuard.Sensor
import PackGuard.Settings
import PackGuard.Storage.Deadline
import PackGuard.Storage.Files
import PackGuard.Storage.Path
import PackGuard.Text.Blank
import PackGuard.Text.Json
import PackGuard.Text.Range
import PackGuard.Text.Separated
import PackGuard.Text.Shown
import PackGuard.Toml.Document
import PackGuard.Toml.Lexis
import PackGuard.Toml.Moment
import PackGuard.Toml.Value
import PackGuard.Track
import PackGuard.Proofs.Balance.Ranking
import PackGuard.Proofs.Balance.Selection
import PackGuard.Proofs.Calibration.RawCounts
import PackGuard.Proofs.Config.Acquisition
import PackGuard.Proofs.Config.Calibrated
import PackGuard.Proofs.Config.Sound
import PackGuard.Proofs.Config.Table
import PackGuard.Proofs.Contactor.Consistency
import PackGuard.Proofs.Contactor.Moves
import PackGuard.Proofs.Contactor.Record
import PackGuard.Proofs.Contactor.Timing
import PackGuard.Proofs.Contactor.Transitions
import PackGuard.Proofs.Contactor.Whereabouts
import PackGuard.Proofs.Controller.Balancing
import PackGuard.Proofs.Controller.Bleeding
import PackGuard.Proofs.Controller.Calls
import PackGuard.Proofs.Controller.Causes
import PackGuard.Proofs.Controller.Commands
import PackGuard.Proofs.Controller.EventLog
import PackGuard.Proofs.Controller.Expiry
import PackGuard.Proofs.Controller.FailSafe
import PackGuard.Proofs.Controller.KeepAlive
import PackGuard.Proofs.Controller.Polling
import PackGuard.Proofs.Controller.Shutdown
import PackGuard.Proofs.Energy.Account
import PackGuard.Proofs.Engine.Current
import PackGuard.Proofs.Engine.Derating
import PackGuard.Proofs.Engine.Divergence
import PackGuard.Proofs.Engine.Findings
import PackGuard.Proofs.Engine.Limit
import PackGuard.Proofs.Events.Replay
import PackGuard.Proofs.KeepAlive.Recognition
import PackGuard.Proofs.KeepAlive.Restart
import PackGuard.Proofs.Nominal.Inside
import PackGuard.Proofs.Number.Arithmetic
import PackGuard.Proofs.Number.Double
import PackGuard.Proofs.Number.Middle
import PackGuard.Proofs.Number.NotANumber
import PackGuard.Proofs.Number.Rounding
import PackGuard.Proofs.Number.Single
import PackGuard.Proofs.Number.Stored
import PackGuard.Proofs.Number.Values
import PackGuard.Proofs.Poll.Average
import PackGuard.Proofs.Poll.Cycles
import PackGuard.Proofs.Poll.Independence
import PackGuard.Proofs.Report.Classes
import PackGuard.Proofs.Run.Ending
import PackGuard.Proofs.Settings.Sound
import PackGuard.Proofs.Storage.Torn
import PackGuard.Proofs.Track.Band
import PackGuard.Proofs.Track.Drift
import PackGuard.Proofs.Track.Freshness
import PackGuard.Proofs.Track.Smoothing
import PackGuard.Proofs.Track.Steps
