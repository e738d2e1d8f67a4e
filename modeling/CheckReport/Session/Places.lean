/-
Places where sessions take place.

On a host, the collector is a program and the records lie on the host's disk. On a bench, the collector is a rehearsal
beside a disk.
-/
import CheckReport.Collector.Command
import CheckReport.Collector.Rehearsal
import CheckReport.Record.File
import CheckReport.Session.Operations

namespace CheckReport

/-- a collector to rehearse with, beside a disk -/
structure Bench where
  rehearsal : Rehearsal
  disk : Disk

namespace Bench

def appendLine (handle : Handle) (text : String) (bench : Bench) : Except Disk.Fault Unit × Bench :=
  let (result, disk) := Record.appendLine handle text bench.disk
  (result, { bench with disk := disk })

def services : Session.Services Bench where
  collector := Rehearsal.service.within Bench.rehearsal fun bench rehearsal => { bench with rehearsal := rehearsal }
  appendLine := appendLine

end Bench

namespace Host

def appendLine (handle : Handle) (text : String) (host : Host) : Except Disk.Fault Unit × Host :=
  let (result, disk) := Record.appendLine handle text host.disk
  (result, { host with disk := disk })

def services (collector : CommandCollector) : Session.Services Host := ⟨collector.service, appendLine⟩

end Host

end CheckReport
