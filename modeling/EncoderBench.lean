import EncoderBench.Decimal.Shortest
import EncoderBench.Decimal.Text
import EncoderBench.Decimal.Read
import EncoderBench.Text.Blank
import EncoderBench.Text.CodeSet
import EncoderBench.Text.Cased
import EncoderBench.Text.CaseIgnorable
import EncoderBench.Text.ExtendingMark
import EncoderBench.Text.Printable
import EncoderBench.Text.Debug
import EncoderBench.Text.Lower
import EncoderBench.Video.Preset
import EncoderBench.Video.FrameRate
import EncoderBench.Video.Resolution
import EncoderBench.Advice.Bitrate
import EncoderBench.Advice.UploadUnit
import EncoderBench.Json.Read
import EncoderBench.Bench.Config
import EncoderBench.Bench.Config.Json
import EncoderBench.Bench.Budget
import EncoderBench.Bench.Trial
import EncoderBench.Bench.Rank
import EncoderBench.Bench.Settings
import EncoderBench.Bench.Progress
import EncoderBench.Json.Value
import EncoderBench.Encoder.Config
import EncoderBench.Encoder.Software
import EncoderBench.Encoder.Motion
import EncoderBench.Bench.Rig
import EncoderBench.Bench.Harness
import EncoderBench.Bench.Engine
import EncoderBench.Bench.Drive
import EncoderBench.Bench.Usage
import EncoderBench.Bench.PacedClock
import EncoderBench.Scenario.Script
import EncoderBench.Scenario.Tally
import EncoderBench.Scenario.Session
import EncoderBench.Cli.Args
import EncoderBench.Text.Pad
import EncoderBench.Cli.Report
import EncoderBench.Cli.Help
import EncoderBench.Cli.Advise
import EncoderBench.Cli.Presets
import EncoderBench.Cli.Autotune
import EncoderBench.Cli.Run
import EncoderBench.FileSystem.Tree
import EncoderBench.FileSystem.Layout
import EncoderBench.FileSystem.Folder
import EncoderBench.Main
import EncoderBench.Proofs.Engine.Grid
import EncoderBench.Proofs.Engine.Search
import EncoderBench.Proofs.Engine.Steps
import EncoderBench.Proofs.Engine.Calls
import EncoderBench.Proofs.Engine.Lifecycle
import EncoderBench.Proofs.Rank
import EncoderBench.Proofs.Recommendation
import EncoderBench.Proofs.Doubles
import EncoderBench.Proofs.Doubles.Rounding
import EncoderBench.Proofs.Doubles.Arithmetic
import EncoderBench.Proofs.BitrateGrowth
import EncoderBench.Proofs.SizeAdvice
import EncoderBench.Proofs.Engine.Outcome
import EncoderBench.Proofs.Engine.Sampling
import EncoderBench.Proofs.Engine.Walk
import EncoderBench.Proofs.Engine.Restart
import EncoderBench.Proofs.Engine.Staircase
import EncoderBench.Proofs.Doubles.Exactness
import EncoderBench.Proofs.Engine.Termination
import EncoderBench.Proofs.Engine.Counters
import EncoderBench.Proofs.UploadBudget
import EncoderBench.Proofs.Engine.Passes
import EncoderBench.Proofs.EncoderCounters
import EncoderBench.Proofs.BitrateRounding
import EncoderBench.Proofs.FrameRateEquality
import EncoderBench.Proofs.ThousandsGrouping
import EncoderBench.Proofs.MotionSearch
