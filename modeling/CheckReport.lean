import CheckReport.Main
import CheckReport.Session.Desk
import CheckReport.Proofs.Session.Course
import CheckReport.Proofs.Session.Lifecycle
import CheckReport.Proofs.Session.Failure
import CheckReport.Proofs.Session.Stepwise
import CheckReport.Proofs.CommandLine.OneShot
import CheckReport.Proofs.Disk.Append
import CheckReport.Proofs.Session.Desk
import CheckReport.Proofs.Session.Records
import CheckReport.Proofs.Disk.Entries
import CheckReport.Proofs.Sweep.Expired
import CheckReport.Proofs.Session.Sweeping
import CheckReport.Proofs.Session.Closings
import CheckReport.Proofs.Session.Rehearsing
import CheckReport.Proofs.CommandLine.ExitCode
import CheckReport.Proofs.Collector.Outcomes
import CheckReport.Proofs.Text.Utf8
import CheckReport.Proofs.Collector.Fidelity
import CheckReport.Proofs.CommandLine.Split
import CheckReport.Proofs.CommandLine.Spaces
import CheckReport.Proofs.CommandLine.Resubmission
import CheckReport.Proofs.Collector.Printed
import CheckReport.Proofs.Collector.Starts
import CheckReport.Proofs.Collector.Delivery
import CheckReport.Proofs.Collector.Retries
import CheckReport.Proofs.Sweep.Reports
import CheckReport.Proofs.CommandLine.SweepForms
import CheckReport.Proofs.Record.Reading
import CheckReport.Proofs.CommandLine.Input
import CheckReport.Proofs.Sweep.Isolation
import CheckReport.Proofs.Sweep.Composition
import CheckReport.Proofs.Sweep.AgeBound
import CheckReport.Proofs.CommandLine.SweepAge
import CheckReport.Proofs.Disk.Opened
import CheckReport.Proofs.Settings.Loading
import CheckReport.Proofs.Settings.Merging
import CheckReport.Proofs.Disk.Directories
import CheckReport.Proofs.Settings.Writing
import CheckReport.Proofs.Session.Supplies
import CheckReport.Proofs.Session.Logging
