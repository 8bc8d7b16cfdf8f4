import TransientFuel.Axis
import TransientFuel.Binary
import TransientFuel.Channel
import TransientFuel.Command.Arguments
import TransientFuel.Command.Latency
import TransientFuel.Command.Listing
import TransientFuel.Command.LogFile
import TransientFuel.Command.LogFilter
import TransientFuel.Command.Override
import TransientFuel.Command.Replay
import TransientFuel.Command.Request
import TransientFuel.Command.Run
import TransientFuel.Csv.Record
import TransientFuel.Csv.Sheet
import TransientFuel.Curve
import TransientFuel.DataFile
import TransientFuel.Decimal.Layout
import TransientFuel.Decimal.Literal
import TransientFuel.Decimal.Shortest
import TransientFuel.Describe
import TransientFuel.Engine
import TransientFuel.File
import TransientFuel.File.Tree
import TransientFuel.Grid
import TransientFuel.JsonValue
import TransientFuel.Load
import TransientFuel.Main
import TransientFuel.Proofs.BareEngine
import TransientFuel.Proofs.CellFaults
import TransientFuel.Proofs.CellOrder
import TransientFuel.Proofs.CellPlacement
import TransientFuel.Proofs.CellSearch
import TransientFuel.Proofs.ChannelSeparation
import TransientFuel.Proofs.Channels
import TransientFuel.Proofs.ChargeConservation
import TransientFuel.Proofs.CheckedSettings
import TransientFuel.Proofs.CompleteGrids
import TransientFuel.Proofs.DataLoading
import TransientFuel.Proofs.DistinctBins
import TransientFuel.Proofs.EngineRuns
import TransientFuel.Proofs.FailureClasses
import TransientFuel.Proofs.Fallible
import TransientFuel.Proofs.FaultFreedom
import TransientFuel.Proofs.FreshStart
import TransientFuel.Proofs.Interpolation
import TransientFuel.Proofs.JsonLines
import TransientFuel.Proofs.Lists
import TransientFuel.Proofs.LoadResponse
import TransientFuel.Proofs.NonnegativeTables
import TransientFuel.Proofs.Numerals
import TransientFuel.Proofs.Observation
import TransientFuel.Proofs.Overrides
import TransientFuel.Proofs.PumpBookkeeping
import TransientFuel.Proofs.PumpDecay
import TransientFuel.Proofs.PumpDrain
import TransientFuel.Proofs.PumpEmptying
import TransientFuel.Proofs.PumpInvariant
import TransientFuel.Proofs.PumpOverflow
import TransientFuel.Proofs.PumpPeriods
import TransientFuel.Proofs.Reconfiguration
import TransientFuel.Proofs.RepeatedComputation
import TransientFuel.Proofs.ReplayListing
import TransientFuel.Proofs.ReplayOutcome
import TransientFuel.Proofs.RingDistance
import TransientFuel.Proofs.RoundedInterpolation
import TransientFuel.Proofs.Rounding
import TransientFuel.Proofs.Runs
import TransientFuel.Proofs.SingleArithmetic
import TransientFuel.Proofs.SingleBounds
import TransientFuel.Proofs.SingleOrder
import TransientFuel.Proofs.SlidingWindow
import TransientFuel.Proofs.SteepestRise
import TransientFuel.Proofs.StuckAmounts
import TransientFuel.Proofs.SummaryRanges
import TransientFuel.Proofs.TableAgreement
import TransientFuel.Proofs.TableNodes
import TransientFuel.Proofs.TableOverflow
import TransientFuel.Pump
import TransientFuel.Report
import TransientFuel.Report.Advice
import TransientFuel.Rise
import TransientFuel.Settings
import TransientFuel.Settings.Build
import TransientFuel.Settings.Check
import TransientFuel.Settings.Decode
import TransientFuel.Single
import TransientFuel.Tabulation
import TransientFuel.Text.Alphanumeric
import TransientFuel.Text.Blank
import TransientFuel.Text.Extender
import TransientFuel.Text.Quoted
import TransientFuel.Text.Ranges
import TransientFuel.Text.Unseen
import TransientFuel.Text.Utf8
import TransientFuel.Throttle
import TransientFuel.Toml.Document
import TransientFuel.Toml.Scalar
import TransientFuel.Toml.Strings
import TransientFuel.Toml.Value
import TransientFuel.Window
