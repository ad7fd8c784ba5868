import WattWarden.Library.Numerals
import WattWarden.Library.FileTree
import WattWarden.Library.Journaling
import WattWarden.Library.Flock
import WattWarden.Library.Runs
import WattWarden.Core.Config
import WattWarden.Core.Error
import WattWarden.Platform.Sysfs
import WattWarden.Platform.Cpu
import WattWarden.Platform.Rapl
import WattWarden.Platform.Gpu
import WattWarden.Platform.Peripherals
import WattWarden.Core.Calibrate
import WattWarden.Platform.Battery
import WattWarden.Platform.Threshold
import WattWarden.Library.FloatLike
import WattWarden.Platform.Backend
import WattWarden.Daemon.Ladder
import WattWarden.Daemon.Runner
import WattWarden.Results.Enforcement
import WattWarden.Results.Calibration
import WattWarden.Results.OptIn
import WattWarden.Results.Ceilings
import WattWarden.FrontEnds.Settings
import WattWarden.Daemon.Processes
import WattWarden.Results.Sessions
import WattWarden.Results.Instance
import WattWarden.Results.ProfileInForce
import WattWarden.Library.TwoRuns
import WattWarden.Results.Memoryless
import WattWarden.Platform.Fleet
import WattWarden.Results.ChargeLimits
import WattWarden.FrontEnds.Layout
import WattWarden.Results.Ramps
import WattWarden.Library.Plans
import WattWarden.Platform.Plans
import WattWarden.Daemon.Plans
import WattWarden.Results.NewNodes
import WattWarden.Results.ZoneCeilings
import WattWarden.FrontEnds.Cli
import WattWarden.Results.CliGate
import WattWarden.FrontEnds.Adjust
import WattWarden.Daemon.Supervisor
import WattWarden.Results.Adjustments
import WattWarden.Library.Saving
import WattWarden.Core.Saving
import WattWarden.Results.Saves
import WattWarden.Library.Words
import WattWarden.Platform.AspmKernel
import WattWarden.Daemon.WriteSets
import WattWarden.Results.Restore
import WattWarden.Library.Nearest
import WattWarden.Platform.Resolvers
import WattWarden.Results.Advertised
import WattWarden.Library.Scales
import WattWarden.Results.Brightness
import WattWarden.Results.Floors
import WattWarden.Results.CoreScaling
import WattWarden.Library.Stages
import WattWarden.Results.Phases
import WattWarden.Platform.Storing
import WattWarden.Results.Settling
import WattWarden.Results.FailedStart
import WattWarden.Library.Calendar
import WattWarden.Daemon.HealthLog
import WattWarden.Results.Timestamps
import WattWarden.Results.FreedRows
import WattWarden.Platform.Privilege
import WattWarden.Results.Elevation
import WattWarden.FrontEnds.ChargeLimit
import WattWarden.Results.PersistedLimit
import WattWarden.FrontEnds.Menu
import WattWarden.Results.Viewport
import WattWarden.Library.TextSearch
import WattWarden.Library.DigitRuns
import WattWarden.Library.Rounding
import WattWarden.Library.Tenths
import WattWarden.Library.Truncation
import WattWarden.Library.Binary64
import WattWarden.Library.Doubles
import WattWarden.Core.BatteryHealth
import WattWarden.Platform.Health
import WattWarden.Results.HealthSources
import WattWarden.Platform.MacParse
import WattWarden.Results.MacPercent
import WattWarden.Results.MacTime
import WattWarden.Results.MacNumbers
import WattWarden.Results.MacHealth
import WattWarden.Results.Announced
import WattWarden.Results.Navigation
import WattWarden.Results.MenuRows
import WattWarden.Library.Recent
import WattWarden.FrontEnds.Plot
import WattWarden.Results.PlottedSamples
import WattWarden.Library.Throttle
import WattWarden.Daemon.Telemetry
import WattWarden.Results.Telemetry
import WattWarden.Library.Records
import WattWarden.Results.HealthRows
import WattWarden.Library.Caching
import WattWarden.FrontEnds.Rows
import WattWarden.Library.Decimals
import WattWarden.FrontEnds.RunLoop
import WattWarden.Results.Keys
import WattWarden.Results.Confirmation
import WattWarden.Results.Pauses
import WattWarden.Results.FreshRows
import WattWarden.Results.Console
import WattWarden.Library.Refinement
import WattWarden.Daemon.Contention
import WattWarden.Results.OneDaemon
import WattWarden.FrontEnds.RealRuntime
import WattWarden.Results.Commands
import WattWarden.Library.Inodes
import WattWarden.FrontEnds.Service
import WattWarden.Results.InstalledBinary
import WattWarden.FrontEnds.Computer
import WattWarden.Results.Limits
import WattWarden.Library.Views
import WattWarden.Results.RowNodes
import WattWarden.Results.Independence
import WattWarden.Library.SharedText
import WattWarden.Core.ConfigText
import WattWarden.Results.SharedConfig
import WattWarden.Results.Rediscovery
import WattWarden.Platform.Estimate
import WattWarden.Results.SummaryLine
