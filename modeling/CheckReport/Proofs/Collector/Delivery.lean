/-
Which submissions reach the collector's program.

A program that is installed and does well whenever it is started accepts every submission that can be handed over to it.
A handle, the minutes and, if they are chosen so, the collector's own arguments always can. A status can if it holds no
NUL; nothing keeps a NUL out of it, and then the collector counts as unavailable. That is an error which invites to make
the same call again, although it finds the session and the host as they were and can only fail the same way.

- `isPlain_submission_iff`: the arguments of a submission can be handed over exactly if the status can.
- `delivered_iff_no_nul`: so a submission to a program that does well succeeds exactly then.
- `nul_undelivered`: a status that is accepted and cannot be delivered.
-/
import CheckReport.Proofs.Collector.Fidelity
import CheckReport.Proofs.Collector.Starts
import CheckReport.Proofs.Record.Minutes
import CheckReport.Proofs.Session.Stepwise
import CheckReport.Session.Places

namespace CheckReport.CommandCollector

open Session (Outcome)
open Text.Utf8 (encode)

/-- what the collector itself puts on a command line holds no NUL -/
structure IsPlain (c : CommandCollector) : Prop where
  program : c.program.hasNul = false
  args : ∀ word ∈ c.args, Char.ofNat 0 ∉ word.toList
  remoteHost : ∀ name ∈ c.remoteHost, Char.ofNat 0 ∉ name.toList

variable {c : CommandCollector}

theorem nul_notMem_submitArguments {handle : Handle} {status : Status} {ttl : Ttl} (plain : c.IsPlain)
    (clean : Char.ofNat 0 ∉ status.token.toList) :
    ∀ word ∈ c.submitArguments handle status ttl, Char.ofNat 0 ∉ word.toList := by
  have in_handle : Char.ofNat 0 ∉ handle.text.toList := ((isOneLine_iff handle.text).1 handle.one_line).2.2
  have in_ttl : Char.ofNat 0 ∉ ttl.text.toList := fun mem => absurd (Ttl.isDigit_of_mem_text mem) (by decide)
  intro word mem
  rcases List.mem_append.1 mem with mem | mem
  · rcases List.mem_append.1 mem with mem | mem
    · exact plain.args word mem
    · simp only [List.mem_cons, List.not_mem_nil, or_false] at mem
      rcases mem with rfl | rfl | rfl | rfl | rfl | rfl | rfl
      · decide
      · decide
      · exact in_handle
      · decide
      · exact clean
      · decide
      · exact in_ttl
  · cases remote : c.remoteHost with
    | none => simp [remote] at mem
    | some name =>
      simp only [remote, List.mem_cons, List.not_mem_nil, or_false] at mem
      rcases mem with rfl | rfl
      · decide
      · exact plain.remoteHost word remote

/-- the arguments of a submission can be handed over exactly if the status can -/
theorem isPlain_submission_iff (handle : Handle) (status : Status) (ttl : Ttl) (plain : c.IsPlain) :
    Host.IsPlain c.program ((c.submitArguments handle status ttl).map encode) ↔
      Char.ofNat 0 ∉ status.token.toList := by
  constructor
  · rintro ⟨-, args⟩ nul
    have mem : status.token ∈ c.submitArguments handle status ttl := by simp [submitArguments]
    exact args _ (List.mem_map_of_mem mem) ((Text.Utf8.zero_mem_encode_iff _).2 nul)
  · intro clean
    refine ⟨plain.program, fun argument mem => ?_⟩
    obtain ⟨word, hword, rfl⟩ := List.mem_map.1 mem
    rw [Text.Utf8.zero_mem_encode_iff]
    exact nul_notMem_submitArguments plain clean word hword

theorem call_of_run_error {α : Type} (phase : Phase) {arguments : List String} (read : Answer → Except Error α)
    {host after : Host} {fault : Disk.Fault} (h : host.run c.program (arguments.map encode) = (.error fault, after)) :
    c.call phase arguments read host =
      ⟨.error (.unavailable phase s!"failed to execute {c.program.display}: {fault.message}"), after, []⟩ := by
  rw [call, h]

/-- the reason that is given for a NUL in an argument -/
def nulReason (c : CommandCollector) : String :=
  s!"failed to execute {c.program.display}: {Disk.Fault.nulInArgument.message}"

/-- **A submission is delivered exactly if the status holds no NUL.** For every program that is installed and does well
when it is started, and arguments as short as the system wants them. Otherwise the collector counts as unavailable, and
the session and the host are left as they were. -/
theorem delivered_iff_no_nul (c : CommandCollector) (host : Host) (handle : Handle) (appended : ℕ) (status : Status)
    (ttl : Ttl) (plain : c.IsPlain) (short : Host.AreShort ((c.submitArguments handle status ttl).map encode))
    (serves : host.Serves c.program) :
    let outcome := Session.finish (Host.services c) status.token ttl.minutes ⟨.opened handle, appended⟩ host
    (outcome.result = .ok () ↔ Char.ofNat 0 ∉ status.token.toList) ∧
    (Char.ofNat 0 ∈ status.token.toList → outcome.result = .error (.unavailable .finish c.nulReason) ∧
      outcome.session = ⟨.opened handle, appended⟩ ∧ outcome.world = host) := by
  have hs : Status.parse status.token = .ok status := (Status.parse_eq_ok_iff _ _).2 rfl
  have ht : Ttl.ofMinutes ttl.minutes = .ok ttl := (Ttl.ofMinutes_eq_ok_iff _ _).2 rfl
  obtain ⟨result, world, -, kept⟩ := Session.finish_opened (Host.services c) hs ht handle appended host
  intro outcome
  have delivered : Char.ofNat 0 ∉ status.token.toList → outcome.result = .ok () := by
    intro clean
    obtain ⟨response, ran, ended⟩ := host.run_of_serves serves ((isPlain_submission_iff handle status ttl plain).2 clean)
      short
    have verdict := submitRecord_verdict c handle status ttl host
    rw [ran] at verdict
    simp only [Verdict, ended] at verdict
    rcases verdict with ⟨value, -, accepted⟩ | ⟨never, -⟩
    · exact result.trans accepted
    · exact absurd trivial (never ())
  have refused : Char.ofNat 0 ∈ status.token.toList → outcome.result = .error (.unavailable .finish c.nulReason) ∧
      outcome.session = ⟨.opened handle, appended⟩ ∧ outcome.world = host := by
    intro nul
    have stuck := host.run_of_not_plain fun h => (isPlain_submission_iff handle status ttl plain).1 h nul
    have reply : c.service.submitRecord handle status ttl host =
        ⟨.error (.unavailable .finish c.nulReason), host, []⟩ :=
      call_of_run_error .finish Answer.submitted stuck
    have failed : outcome.result = .error (.unavailable .finish c.nulReason) :=
      result.trans (congrArg Reply.result reply)
    have open_still : outcome.session = ⟨.opened handle, appended⟩ := by
      apply kept
      rw [failed]
      simp
    exact ⟨failed, open_still, world.trans (congrArg Reply.world reply)⟩
  refine ⟨⟨fun ok nul => ?_, delivered⟩, refused⟩
  rw [(refused nul).1] at ok
  cases ok

/-- the program of a printing host does well whenever it is started -/
theorem printingHost_serves : (printingHost []).Serves (.ofString "/c") := by
  have found : ((printingHost []).loadNamed (.ofString "/c") []).isOk = true := by decide +kernel
  cases loaded : (printingHost []).loadNamed (.ofString "/c") [] with
  | error fault =>
    rw [loaded] at found
    cases found
  | ok start =>
    obtain ⟨path, load⟩ := (printingHost []).exists_load_of_loadNamed loaded
    have program := (printingHost []).program?_of_load load
    refine ⟨start, loaded, fun arguments => ?_⟩
    simp only [printingHost] at program
    split at program
    · rw [← Option.some.inj program]
      exact ⟨_, rfl, rfl⟩
    · cases program

/-- a handle, a status and a remote host that look like options -/
theorem delivered_iff_no_nul_options :
    let c : CommandCollector := ⟨.ofString "/c", ["--"], .ofSeconds 5, some "-a"⟩
    let handle : Handle := ⟨"-s", by decide, by decide⟩
    let status : Status := ⟨"-f", by decide⟩
    let ttl : Ttl := ⟨0, by decide⟩
    c.IsPlain ∧ Host.AreShort ((c.submitArguments handle status ttl).map encode) ∧ (printingHost []).Serves c.program ∧
      (Session.finish (Host.services c) "-f" 0 ⟨.opened handle, 2⟩ (printingHost [])).result = .ok () := by
  intro c handle status ttl
  have plain : c.IsPlain := ⟨by decide, by decide, by rintro name ⟨⟩; decide⟩
  have short : Host.AreShort ((c.submitArguments handle status ttl).map encode) := by
    unfold Host.AreShort
    decide
  obtain ⟨delivered, -⟩ := delivered_iff_no_nul c (printingHost []) handle 2 status ttl plain short printingHost_serves
  exact ⟨plain, short, printingHost_serves, delivered.2 (by decide)⟩

/-- a status that is accepted is not delivered, although the program does well, and the error invites to try again -/
theorem nul_undelivered :
    let c := ofProgram (.ofString "/c") []
    let handle : Handle := ⟨"r", by decide, by decide⟩
    let status : Status := ⟨"O\x00K", by decide⟩
    let ttl : Ttl := ⟨5, by decide⟩
    let outcome := Session.finish (Host.services c) "O\x00K" 5 ⟨.opened handle, 0⟩ (printingHost [])
    c.IsPlain ∧ Status.parse "O\x00K" = .ok status ∧ Ttl.ofMinutes 5 = .ok ttl ∧
      Host.AreShort ((c.submitArguments handle status ttl).map encode) ∧ (printingHost []).Serves c.program ∧
      ∃ e, outcome.result = .error e ∧ e.retryable = true ∧ outcome.session = ⟨.opened handle, 0⟩ := by
  intro c handle status ttl outcome
  refine ⟨⟨by decide, by decide, by rintro name ⟨⟩⟩, rfl, rfl, ?_, printingHost_serves, ?_⟩
  · unfold Host.AreShort
    decide
  · exact ⟨.unavailable .finish c.nulReason, by decide +kernel, rfl, by decide +kernel⟩

end CheckReport.CommandCollector
