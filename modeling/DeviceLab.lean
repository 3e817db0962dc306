import DeviceLab.Arguments
import DeviceLab.Catalog
import DeviceLab.Catalog.Builtin
import DeviceLab.Catalog.Dummy
import DeviceLab.Catalog.Parts
import DeviceLab.Catalog.Platform
import DeviceLab.Catalog.Power
import DeviceLab.Command
import DeviceLab.CommandLine
import DeviceLab.CommandLine.Perform
import DeviceLab.Config
import DeviceLab.Datum
import DeviceLab.Datum.Record
import DeviceLab.Decimal.Binary64
import DeviceLab.Decimal.Reading
import DeviceLab.Decimal.Shortest
import DeviceLab.Device.Vpd
import DeviceLab.Device.Discharge
import DeviceLab.Device.Dlc
import DeviceLab.Device.Fwupd
import DeviceLab.Device.Poll
import DeviceLab.Device.PowerSupply
import DeviceLab.Device.Rehearsal
import DeviceLab.Device.Services
import DeviceLab.Device.Session
import DeviceLab.Device.Tpm
import DeviceLab.Device.Upstart
import DeviceLab.Dialogue
import DeviceLab.Dict
import DeviceLab.Failure
import DeviceLab.Failure.Record
import DeviceLab.Files.Content
import DeviceLab.Files.OsError
import DeviceLab.Files.Path
import DeviceLab.Files.Tree
import DeviceLab.Host
import DeviceLab.Job
import DeviceLab.Job.Console
import DeviceLab.Job.Control
import DeviceLab.Job.Outcome
import DeviceLab.Json.Number
import DeviceLab.Json.Reader
import DeviceLab.Json.Token
import DeviceLab.Json.Writer
import DeviceLab.Machine
import DeviceLab.Machine.Call
import DeviceLab.Machine.Condition
import DeviceLab.Machine.Flow
import DeviceLab.Machine.Format
import DeviceLab.Machine.Opening
import DeviceLab.Machine.Search
import DeviceLab.Machine.Utility
import DeviceLab.Machine.Utility.Files
import DeviceLab.Machine.Utility.Lines
import DeviceLab.Machine.Utility.Reading
import DeviceLab.Machine.Utility.Writing
import DeviceLab.Main
import DeviceLab.Pattern
import DeviceLab.Pattern.Escape
import DeviceLab.Pattern.Named
import DeviceLab.Pattern.Reader
import DeviceLab.Pattern.Set
import DeviceLab.Program
import DeviceLab.Scheduler.Calendar
import DeviceLab.Scheduler.Connections
import DeviceLab.Scheduler.Fault
import DeviceLab.Scheduler.Log
import DeviceLab.Script
import DeviceLab.Shell
import DeviceLab.Shell.Arithmetic
import DeviceLab.Shell.Builtin
import DeviceLab.Shell.Evaluation
import DeviceLab.Shell.Fields
import DeviceLab.Shell.Glob
import DeviceLab.Shell.Reader
import DeviceLab.Shell.Signal
import DeviceLab.Shell.State
import DeviceLab.Shell.Syntax
import DeviceLab.Shell.Token
import DeviceLab.Text.Blank
import DeviceLab.Text.Cut
import DeviceLab.Text.Quoted
import DeviceLab.Text.Utf8
import DeviceLab.Toml.Document
import DeviceLab.Toml.Grammar
import DeviceLab.Toml.Number
import DeviceLab.Toml.Token
import DeviceLab.Trial.Body
import DeviceLab.Trial.Child
import DeviceLab.Trial.Dirs
import DeviceLab.Trial.Runner
import DeviceLab.Trial.Status
import DeviceLab.Unicode.Category
import DeviceLab.Unicode.Folding
import DeviceLab.Unicode.Property
import DeviceLab.Unicode.RangeSet
import DeviceLab.Unicode.Ranges
import DeviceLab.Unicode.Script
import DeviceLab.Variables
import DeviceLab.Proofs.Path
import DeviceLab.Proofs.Tree
import DeviceLab.Proofs.Work
import DeviceLab.Proofs.Dirs
import DeviceLab.Proofs.Status
import DeviceLab.Proofs.Dialogue
import DeviceLab.Proofs.Discharge
import DeviceLab.Proofs.Turns
import DeviceLab.Proofs.Results
import DeviceLab.Proofs.StatusLog
import DeviceLab.Proofs.Account
import DeviceLab.Proofs.Attributes
import DeviceLab.Proofs.Json
import DeviceLab.Proofs.CommandLine
import DeviceLab.Proofs.Reopen
import DeviceLab.Proofs.ErrorRecord
import DeviceLab.Proofs.Verdict
import DeviceLab.Proofs.Isolation
import DeviceLab.Proofs.Notable
import DeviceLab.Proofs.Notes
import DeviceLab.Proofs.OneVerdict
import DeviceLab.Proofs.Utf8
import DeviceLab.Proofs.Dict
import DeviceLab.Proofs.Variables
import DeviceLab.Proofs.Connections
import DeviceLab.Proofs.Services
import DeviceLab.Proofs.Placement
import DeviceLab.Proofs.Poll
import DeviceLab.Proofs.Upstart
import DeviceLab.Proofs.FreshNames
import DeviceLab.Proofs.Preloads
import DeviceLab.Proofs.Forcing
import DeviceLab.Proofs.Replay
import DeviceLab.Proofs.Restart
import DeviceLab.Proofs.Dependence
import DeviceLab.Proofs.ShellLine
import DeviceLab.Proofs.LineFormat
import DeviceLab.Proofs.Listing
import DeviceLab.Proofs.Properties
import DeviceLab.Proofs.Word
import DeviceLab.Proofs.OwnerPassword
import DeviceLab.Proofs.RestartOnce
