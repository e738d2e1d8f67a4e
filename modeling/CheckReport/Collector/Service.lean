/-
Collectors.

A collector opens records and submits them. Both calls act on a world of any kind, such as a host that runs programs,
and answer with a result, the world that they leave and what they logged.
-/
import CheckReport.Error
import CheckReport.Log

namespace CheckReport

/-- what a call gives back -/
structure Reply (σ α : Type) where
  result : Except Error α
  world : σ
  log : List Log.Entry

structure Collector (σ : Type) where
  /-- make a new record and name it -/
  openRecord : σ → Reply σ Handle
  /-- hand a record in with its outcome -/
  submitRecord : Handle → Status → Ttl → σ → Reply σ Unit

/-- the same collector in a world that holds its own world as one part -/
def Collector.within {σ τ : Type} (collector : Collector σ) (part : τ → σ) (put : τ → σ → τ) : Collector τ where
  openRecord world :=
    let reply := collector.openRecord (part world)
    ⟨reply.result, put world reply.world, reply.log⟩
  submitRecord handle status ttl world :=
    let reply := collector.submitRecord handle status ttl (part world)
    ⟨reply.result, put world reply.world, reply.log⟩

end CheckReport
