/-
The arguments of a submission.

Behind a collector's own arguments stand the handle and the outcome, and then the remote host if there is one. Two
submissions with the same arguments are therefore the same, of collectors that say the same.

- `submitArguments_inj`: the arguments tell what they were made of.
- `call_world`, `call_disk`: a call leaves the host as the run of the program with its arguments does, and the disk as
  it was.
-/
import CheckReport.Collector.Command
import CheckReport.Proofs.Collector.Starts
import CheckReport.Proofs.Record.Minutes

namespace CheckReport

open Text.Utf8 (encode)

namespace CommandCollector

/-- the arguments of a submission behind the collector's own and in front of the remote host -/
def outcomeArguments (handle : Handle) (status : Status) (ttl : Ttl) : List String :=
  ["-e", "-f", handle.text, "-s", status.token, "-t", ttl.text]

theorem outcomeArguments_inj {handle handle' : Handle} {status status' : Status} {ttl ttl' : Ttl}
    (h : outcomeArguments handle status ttl = outcomeArguments handle' status' ttl') :
    handle = handle' ∧ status = status' ∧ ttl = ttl' := by
  simp only [outcomeArguments, List.cons.injEq, true_and, and_true] at h
  obtain ⟨same_handle, same_status, same_ttl⟩ := h
  exact ⟨Handle.text_injective same_handle, Status.token_injective same_status, Ttl.text_injective same_ttl⟩

/-- with a remote host the arguments end otherwise than without one -/
theorem outcomeArguments_ne (own own' : List String) (handle handle' : Handle) (status status' : Status)
    (ttl ttl' : Ttl) (name : String) :
    own ++ outcomeArguments handle status ttl ≠ own' ++ outcomeArguments handle' status' ttl' ++ ["-a", name] := by
  intro h
  have last : own ++ ["-e", "-f", handle.text, "-s", status.token] ++ ["-t", ttl.text] =
      own' ++ outcomeArguments handle' status' ttl' ++ ["-a", name] := by
    rw [← h, List.append_assoc]
    rfl
  have differ : "-t" ≠ "-a" := by decide
  exact differ (List.head_eq_of_cons_eq (List.append_inj' last rfl).2)

theorem submitArguments_inj {c d : CommandCollector} {handle handle' : Handle} {status status' : Status}
    {ttl ttl' : Ttl} (h : c.submitArguments handle status ttl = d.submitArguments handle' status' ttl') :
    c.args = d.args ∧ c.remoteHost = d.remoteHost ∧ handle = handle' ∧ status = status' ∧ ttl = ttl' := by
  obtain ⟨_, own, _, address⟩ := c
  obtain ⟨_, own', _, address'⟩ := d
  cases address with
  | none =>
    cases address' with
    | none =>
      have whole : own ++ outcomeArguments handle status ttl = own' ++ outcomeArguments handle' status' ttl' := by
        simpa [submitArguments, outcomeArguments] using h
      obtain ⟨same, told⟩ := List.append_inj' whole rfl
      exact ⟨same, rfl, outcomeArguments_inj told⟩
    | some name =>
      refine absurd ?_ (outcomeArguments_ne own own' handle handle' status status' ttl ttl' name)
      simpa [submitArguments, outcomeArguments] using h
  | some name =>
    cases address' with
    | none =>
      refine absurd ?_ (outcomeArguments_ne own' own handle' handle status' status ttl' ttl name)
      simpa [submitArguments, outcomeArguments] using h.symm
    | some name' =>
      have whole : own ++ outcomeArguments handle status ttl ++ ["-a", name] =
          own' ++ outcomeArguments handle' status' ttl' ++ ["-a", name'] := by
        simpa [submitArguments, outcomeArguments] using h
      obtain ⟨front, back⟩ := List.append_inj' whole rfl
      obtain ⟨same, told⟩ := List.append_inj' front rfl
      have name_eq : name = name' := by simpa using back
      exact ⟨same, congrArg some name_eq, outcomeArguments_inj told⟩

theorem call_world {α : Type} (c : CommandCollector) (phase : Phase) (arguments : List String)
    (read : Answer → Except Error α) (host : Host) :
    (c.call phase arguments read host).world = (host.run c.program (arguments.map encode)).2 := by
  unfold call
  rcases host.run c.program (arguments.map encode) with ⟨_ | response, after⟩
  · rfl
  · simp only
    split <;> rfl

/-- whatever comes of a call, the disk is as it was -/
theorem call_disk {α : Type} (c : CommandCollector) (phase : Phase) (arguments : List String)
    (read : Answer → Except Error α) (host : Host) : (c.call phase arguments read host).world.disk = host.disk := by
  rw [call_world]
  exact (host.run_noted c.program (arguments.map encode)).disk_eq

end CommandCollector

end CheckReport
