import JobLedger.Command.Arguments
import JobLedger.Command.Basic
import JobLedger.Command.Perform
import JobLedger.Config.History
import JobLedger.Dict
import JobLedger.Disk.Basic
import JobLedger.Disk.Ensure
import JobLedger.Disk.Snapshot
import JobLedger.Disk.Step
import JobLedger.Fields
import JobLedger.History.Columns
import JobLedger.History.Error
import JobLedger.History.RecordRow
import JobLedger.History.Report
import JobLedger.History.Store
import JobLedger.History.Timestamp
import JobLedger.Host.Direction
import JobLedger.Host.Folding
import JobLedger.Host.Ip
import JobLedger.Host.Joining
import JobLedger.Host.Name
import JobLedger.Host.Punycode
import JobLedger.Job.Context
import JobLedger.Job.Definition
import JobLedger.Job.Error
import JobLedger.Job.Execution
import JobLedger.Job.File
import JobLedger.Job.Outcome
import JobLedger.Job.PartFiles
import JobLedger.Job.Producer
import JobLedger.Job.Registry
import JobLedger.Job.Runner
import JobLedger.Json.Basic
import JobLedger.Json.Decode
import JobLedger.Json.Parser
import JobLedger.Json.Printer
import JobLedger.Main
import JobLedger.Proofs.Dict
import JobLedger.Proofs.Disk.Address
import JobLedger.Proofs.Disk.Write
import JobLedger.Proofs.History.Enumeration
import JobLedger.Proofs.History.RecordRow
import JobLedger.Proofs.History.Store
import JobLedger.Proofs.History.Writes
import JobLedger.Proofs.Job.Recorded
import JobLedger.Proofs.Job.Submission
import JobLedger.Proofs.Json.Codec
import JobLedger.Proofs.Json.RoundTrip
import JobLedger.Proofs.Storage.Files
import JobLedger.Proofs.Storage.Memory
import JobLedger.Proofs.Storage.Mirror
import JobLedger.Proofs.Storage.Refinement
import JobLedger.Proofs.Storage.Row
import JobLedger.Proofs.Storage.Watched
import JobLedger.Proofs.Text.Hex
import JobLedger.Proofs.Text.Numeral
import JobLedger.Proofs.Text.Utf8
import JobLedger.Record.Basic
import JobLedger.Record.Conf
import JobLedger.Record.Counters
import JobLedger.Spec.Error
import JobLedger.Spec.Input
import JobLedger.Spec.Output
import JobLedger.Storage.Address
import JobLedger.Storage.Backend
import JobLedger.Storage.Error
import JobLedger.Storage.FileUrl
import JobLedger.Storage.Folder
import JobLedger.Storage.Layout
import JobLedger.Storage.Memory
import JobLedger.Storage.Row
import JobLedger.Storage.RowFile
import JobLedger.Text.Blank
import JobLedger.Text.CodeRanges
import JobLedger.Text.CodeTable
import JobLedger.Text.Cut
import JobLedger.Text.Hex
import JobLedger.Text.Marks
import JobLedger.Text.NormalForm.Basic
import JobLedger.Text.NormalForm.Classes
import JobLedger.Text.NormalForm.Decompositions
import JobLedger.Text.NormalForm.Hangul
import JobLedger.Text.Numeral
import JobLedger.Text.Printable
import JobLedger.Text.Quoted
import JobLedger.Text.SipHash
import JobLedger.Text.Upper
import JobLedger.Text.Utf8
import JobLedger.Yaml.Block
import JobLedger.Yaml.Cursor
import JobLedger.Yaml.Decode
import JobLedger.Yaml.Directive
import JobLedger.Yaml.Gap
import JobLedger.Yaml.Layout
import JobLedger.Yaml.Node
import JobLedger.Yaml.Plain
import JobLedger.Yaml.Quoted
import JobLedger.Yaml.Tag
import JobLedger.Yaml.Token
import JobLedger.Proofs.Job.Independence
import JobLedger.Proofs.Disk.Change
import JobLedger.Proofs.Storage.Lookup
import JobLedger.Proofs.Storage.Changes
import JobLedger.Proofs.Storage.Families
import JobLedger.Proofs.Storage.FolderScan
import JobLedger.Proofs.History.FolderEnumeration
import JobLedger.Proofs.History.FolderTermination
import JobLedger.Proofs.Spec.Output
import JobLedger.Proofs.Record.RoundTrip
import JobLedger.Proofs.History.DamagedRows
import JobLedger.Proofs.Disk.StoppedWrite
import JobLedger.Proofs.Storage.StoppedWrite
import JobLedger.Proofs.Text.Cut
import JobLedger.Proofs.Spec.Input
import JobLedger.Proofs.Spec.RoundTrip
import JobLedger.Proofs.History.Installation
import JobLedger.Proofs.Storage.NewTable
import JobLedger.Proofs.Record.Totals
import JobLedger.Proofs.Job.Tally
import JobLedger.Proofs.Disk.Made
import JobLedger.Proofs.Job.PartFiles
import JobLedger.Proofs.Job.TextOutput
import JobLedger.Proofs.Job.Projection
import JobLedger.Proofs.Job.Configuration
import JobLedger.Proofs.Job.SubmissionOrder
import JobLedger.Proofs.Text.Blank
import JobLedger.Proofs.History.Decoding
import JobLedger.Proofs.History.WholeReport
import JobLedger.Proofs.History.ReportLines
import JobLedger.Proofs.Storage.FileUrl
import JobLedger.Proofs.Disk.SameWay
import JobLedger.Proofs.Storage.OwnAddress
import JobLedger.Proofs.Storage.HexForms
import JobLedger.Proofs.History.Calendar
import JobLedger.Proofs.History.Timestamp
import JobLedger.Proofs.Job.DisabledHistory
