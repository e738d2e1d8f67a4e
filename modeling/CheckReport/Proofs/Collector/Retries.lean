/-
Handing a record in again and again.

An attempt to hand in an open record that fails leaves the session open, so the same attempt may be made again, and the
surroundings may change anything on the host before it is. Every attempt runs the program with the same arguments. They
say which record is meant and how it came out: whoever takes each of the options `-f`, `-s`, `-t` and `-a` together with
the next word, whatever that word looks like, reads just this from them.

- `attempt_law`, `attempts_law`: what one attempt does, and what any number of them does.
- `Said.ofWords?_submission`: what the arguments are read as.
- `submitArguments_eq_iff`: the arguments are the same exactly if all that they say is.
- `retries_identical`: all of this for a session over a collector that is a program.
-/
import CheckReport.Proofs.Collector.Arguments
import CheckReport.Proofs.Collector.Fidelity
import CheckReport.Proofs.Collector.Starts
import CheckReport.Proofs.Session.Stepwise
import CheckReport.Session.Places

namespace CheckReport

open Session (Outcome)
open Text.Utf8 (Bytes encode)

/-! ## What arguments say -/

/-- options that take the next word as their value, whatever it looks like -/
def valuedOptions : List String := ["-f", "-s", "-t", "-a"]

/-- the options that take a value, with their values; every other word stands alone -/
def optionValues : List String → List (String × String)
  | option :: value :: rest =>
    if option ∈ valuedOptions then (option, value) :: optionValues rest else optionValues (value :: rest)
  | _ => []

/-- what a submission says -/
structure Said where
  handle : String
  status : String
  minutes : ℤ
  remoteHost : Option String
  deriving DecidableEq, Repr

/-- what the words of a submission say, if they say which record it is about, how it came out and for how long -/
def Said.ofWords? (words : List String) : Option Said :=
  let options := optionValues words
  match options.lookup "-f", options.lookup "-s",
    (options.lookup "-t").bind (Decimal.int? Decimal.minSigned64 Decimal.maxSigned64) with
  | some handle, some status, some minutes => some ⟨handle, status, minutes, options.lookup "-a"⟩
  | _, _, _ => none

namespace CommandCollector

/-- the words for a remote host -/
def addressArguments (c : CommandCollector) : List String :=
  match c.remoteHost with
  | some name => ["-a", name]
  | none => []

theorem submitArguments_eq (c : CommandCollector) (handle : Handle) (status : Status) (ttl : Ttl) :
    c.submitArguments handle status ttl = c.args ++ (outcomeArguments handle status ttl ++ c.addressArguments) :=
  List.append_assoc _ _ _

end CommandCollector

/-- **The words of a submission are read as what it says**, even if a handle, a status or a host is named like an
option. -/
theorem Said.ofWords?_submission (c : CommandCollector) (handle : Handle) (status : Status) (ttl : Ttl) :
    Said.ofWords? (CommandCollector.outcomeArguments handle status ttl ++ c.addressArguments) =
      some ⟨handle.text, status.token, ttl.minutes, c.remoteHost⟩ := by
  have options : optionValues (CommandCollector.outcomeArguments handle status ttl ++ c.addressArguments) =
      [("-f", handle.text), ("-s", status.token), ("-t", ttl.text)] ++
        (c.remoteHost.map fun name => ("-a", name)).toList := by
    unfold CommandCollector.outcomeArguments CommandCollector.addressArguments
    cases c.remoteHost <;> simp [optionValues, valuedOptions]
  unfold Said.ofWords?
  rw [options]
  cases c.remoteHost <;> simp [List.lookup_cons, Ttl.int?_text]

namespace CommandCollector

/-- two submissions of collectors that begin alike have the same arguments exactly if they say the same -/
theorem submitArguments_eq_iff {c d : CommandCollector} (same : d.args = c.args) (handle handle' : Handle)
    (status status' : Status) (ttl ttl' : Ttl) :
    (d.submitArguments handle' status' ttl').map encode = (c.submitArguments handle status ttl).map encode ↔
      handle' = handle ∧ status' = status ∧ ttl' = ttl ∧ d.remoteHost = c.remoteHost := by
  constructor
  · intro h
    obtain ⟨-, remote, hh, hs, ht⟩ := submitArguments_inj (List.map_injective_iff.2 Text.Utf8.encode_injective h)
    exact ⟨hh, hs, ht, remote⟩
  · rintro ⟨rfl, rfl, rfl, remote⟩
    rw [submitArguments, submitArguments, same, remote]

/-! ## Attempts -/

/-- an attempt to hand a record in: the host that it finds, and what comes of it -/
structure Attempt where
  before : Host
  outcome : Outcome Host Unit

/-- one attempt after another, each with what the surroundings do to the host before it is made -/
def attempts (c : CommandCollector) (token : String) (minutes : ℤ) (session : Session) (host : Host) :
    List (Host → Host) → List Attempt
  | [] => []
  | change :: later =>
    let outcome := Session.finish (Host.services c) token minutes session (change host)
    ⟨change host, outcome⟩ :: attempts c token minutes outcome.session outcome.world later

/-- the attempt runs the program once, with these arguments, which decides what comes of it; no line is added or
counted -/
structure Attempt.Runs (c : CommandCollector) (arguments : List Bytes) (appended : ℕ) (attempt : Attempt) : Prop where
  decided : Verdict .finish (fun _ _ => True) (attempt.before.run c.program arguments).1 attempt.outcome.result
  noted : attempt.before.Noted arguments (attempt.before.run c.program arguments).1 attempt.outcome.world
  disk_eq : attempt.outcome.world.disk = attempt.before.disk
  appended_eq : attempt.outcome.session.appended = appended

variable {token : String} {minutes : ℤ} {status : Status} {ttl : Ttl}

/-- one attempt on an open session, which stays as it was if the attempt fails -/
theorem attempt_law (c : CommandCollector) (handle : Handle) (appended : ℕ) (hs : Status.parse token = .ok status)
    (ht : Ttl.ofMinutes minutes = .ok ttl) (host : Host) :
    let outcome := Session.finish (Host.services c) token minutes ⟨.opened handle, appended⟩ host
    Attempt.Runs c ((c.submitArguments handle status ttl).map encode) appended ⟨host, outcome⟩ ∧
      (outcome.result ≠ .ok () → outcome.session = ⟨.opened handle, appended⟩) := by
  intro outcome
  obtain ⟨result, world, counted, kept⟩ := Session.finish_opened (Host.services c) hs ht handle appended host
  have verdict := submitRecord_verdict c handle status ttl host
  have noted := host.run_noted c.program ((c.submitArguments handle status ttl).map encode)
  have after : outcome.world = (host.run c.program ((c.submitArguments handle status ttl).map encode)).2 :=
    world.trans (call_world c _ _ _ host)
  rw [← after] at noted
  refine ⟨{ decided := ?_, noted := noted, disk_eq := noted.disk_eq, appended_eq := counted }, kept⟩
  rw [result]
  exact verdict

/-- **Attempts that fail are made again as they were.** By induction on the attempts: as long as they fail, the session
stays open with the same handle. -/
theorem attempts_law (c : CommandCollector) (handle : Handle) (appended : ℕ) (hs : Status.parse token = .ok status)
    (ht : Ttl.ofMinutes minutes = .ok ttl) (host : Host) (changes : List (Host → Host))
    (failed : ∀ attempt ∈ (attempts c token minutes ⟨.opened handle, appended⟩ host changes).dropLast,
      attempt.outcome.result ≠ .ok ()) :
    ∀ attempt ∈ attempts c token minutes ⟨.opened handle, appended⟩ host changes,
      attempt.Runs c ((c.submitArguments handle status ttl).map encode) appended ∧
        ((∀ change ∈ changes, ∀ host, (change host).disk.read handle.path = host.disk.read handle.path) →
          attempt.outcome.world.disk.read handle.path = host.disk.read handle.path) := by
  induction changes generalizing host with
  | nil => exact fun attempt mem => absurd mem List.not_mem_nil
  | cons change later ih =>
    obtain ⟨runs, kept⟩ := attempt_law c handle appended hs ht (change host)
    rw [attempts] at failed ⊢
    generalize Session.finish (Host.services c) token minutes ⟨.opened handle, appended⟩ (change host) = outcome at *
    have unread : (∀ change' ∈ change :: later, ∀ host, (change' host).disk.read handle.path =
        host.disk.read handle.path) → outcome.world.disk.read handle.path = host.disk.read handle.path := by
      intro spared
      rw [runs.disk_eq]
      exact spared change List.mem_cons_self host
    intro attempt mem
    rcases List.mem_cons.1 mem with rfl | mem
    · exact ⟨runs, unread⟩
    · have more : attempts c token minutes outcome.session outcome.world later ≠ [] := List.ne_nil_of_mem mem
      rw [List.dropLast_cons_of_ne_nil more] at failed
      have open_still := kept (failed _ List.mem_cons_self)
      rw [open_still] at mem failed
      obtain ⟨runs', unread'⟩ := ih outcome.world (fun other mem' => failed other (List.mem_cons_of_mem _ mem'))
        attempt mem
      refine ⟨runs', fun spared => (unread' fun change' mem' => ?_).trans (unread spared)⟩
      exact spared change' (List.mem_cons_of_mem change mem')

/-- **Every attempt makes the same submission, and loses nothing.** For every collector that is a program, every open
session and every acceptable outcome, however the attempts fail and whatever the surroundings do to the host between
them. -/
theorem retries_identical (c : CommandCollector) (handle : Handle) (appended : ℕ) (token : String) (minutes : ℤ)
    (status : Status) (ttl : Ttl) (hs : Status.parse token = .ok status) (ht : Ttl.ofMinutes minutes = .ok ttl)
    (host : Host) (changes : List (Host → Host))
    (failed : ∀ attempt ∈ (attempts c token minutes ⟨.opened handle, appended⟩ host changes).dropLast,
      attempt.outcome.result ≠ .ok ()) :
    let words := c.args ++ (["-e", "-f", handle.text, "-s", token, "-t", ttl.text] ++ c.addressArguments)
    (∀ attempt ∈ attempts c token minutes ⟨.opened handle, appended⟩ host changes,
      attempt.Runs c (words.map encode) appended ∧
      ((∀ change ∈ changes, ∀ host, (change host).disk.read handle.path = host.disk.read handle.path) →
        attempt.outcome.world.disk.read handle.path = host.disk.read handle.path)) ∧
    Said.ofWords? (words.drop c.args.length) = some ⟨handle.text, token, minutes, c.remoteHost⟩ ∧
    0 ≤ minutes ∧ minutes ≤ 2147483647 ∧
    ∀ (d : CommandCollector) (handle' : Handle) (status' : Status) (ttl' : Ttl), d.args = c.args →
      ((d.submitArguments handle' status' ttl').map encode = words.map encode ↔
        handle' = handle ∧ status' = status ∧ ttl' = ttl ∧ d.remoteHost = c.remoteHost) := by
  have token_eq : status.token = token := (Status.parse_eq_ok_iff token status).1 hs
  have minutes_eq : (ttl.minutes : ℤ) = minutes := (Ttl.ofMinutes_eq_ok_iff minutes ttl).1 ht
  have bound : ttl.minutes ≤ 2147483647 := ttl.le_max
  intro words
  have whole : words = c.submitArguments handle status ttl := by
    rw [submitArguments_eq, outcomeArguments, token_eq]
  refine ⟨?_, ?_, by omega, by omega, ?_⟩
  · rw [whole]
    exact attempts_law c handle appended hs ht host changes failed
  · have said := Said.ofWords?_submission c handle status ttl
    rw [outcomeArguments, token_eq, minutes_eq] at said
    rw [List.drop_left]
    exact said
  · intro d handle' status' ttl' same
    rw [whole]
    exact submitArguments_eq_iff same handle handle' status status' ttl ttl'

/-- a host whose program does not end at first, then fails, and does well from then on -/
def moodyHost : Host :=
  { printingHost [] with
    program? := fun loc => if loc = [encode "c"] then
        some fun _ launches _ =>
          .ok ⟨[], [], if launches = 0 then .running else if launches = 1 then .exited 3 else .exited 0⟩
      else none }

/-- four attempts, in front of the second of which the program is taken away, with values that look like options -/
theorem retries_identical_moody :
    let c : CommandCollector := ⟨.ofString "/c", ["-f"], .ofSeconds 5, some "-t"⟩
    let handle : Handle := ⟨"-s", by decide, by decide⟩
    let changes : List (Host → Host) :=
      [id, fun host => { host with program? := fun _ => none },
        fun host => { host with program? := moodyHost.program? }, id]
    let tries := attempts c "-a" 7 ⟨.opened handle, 2⟩ moodyHost changes
    (∀ attempt ∈ tries.dropLast, attempt.outcome.result ≠ .ok ()) ∧
      tries.map (fun attempt => attempt.before.launches.length) = [0, 1, 1, 2] ∧
      tries.map (fun attempt => attempt.outcome.result.isOk) = [false, false, false, true] ∧
      ∀ attempt ∈ tries,
        attempt.Runs c (["-f", "-e", "-f", "-s", "-s", "-a", "-t", "7", "-a", "-t"].map encode) 2 := by
  intro c handle changes tries
  have failed : ∀ attempt ∈ tries.dropLast, attempt.outcome.result ≠ .ok () := by decide +kernel
  have words : c.args ++ (["-e", "-f", handle.text, "-s", "-a", "-t", Ttl.text ⟨7, by decide⟩] ++ c.addressArguments) =
      ["-f", "-e", "-f", "-s", "-s", "-a", "-t", "7", "-a", "-t"] := by decide
  obtain ⟨law, -⟩ :=
    retries_identical c handle 2 "-a" 7 ⟨"-a", by decide⟩ ⟨7, by decide⟩ rfl rfl moodyHost changes failed
  refine ⟨failed, by decide +kernel, by decide +kernel, fun attempt mem => ?_⟩
  rw [← words]
  exact (law attempt mem).1

end CommandCollector

end CheckReport
