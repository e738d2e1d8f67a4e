/-
Lines from standard input.

The input is read to its end, and each of its lines as a text, before anything else is done. So an input that is no text,
wherever it stops being one, leaves the host as it was; and one that is a text is reported whole, its lines behind those
of the command line.

- `inputLines_encode`, `exists_text_of_inputLines`: the inputs that can be read, and their lines.
- `report_goes`: a report of which every step succeeds.
- `input_whole_or_nothing`: for all command lines that read the input, all inputs and all hosts.
-/
import CheckReport.Proofs.Collector.Arguments
import CheckReport.Proofs.CommandLine.ExitCode
import CheckReport.Proofs.Record.Reading
import CheckReport.Proofs.Text.Encoded

namespace CheckReport.CommandLine

open Record (appendLines lineBytes)
open Session (appendAll append_cases begin_cases submit_cases)
open Text (partLines written)
open Text.Utf8 (Bytes encode)

/-! ## Reading the input -/

theorem inputLines_eq (input : Bytes) : inputLines input = (Text.lineParts 0x0A 0x0D input).mapM Text.Utf8.decode := by
  rw [← Text.bare_pieces, List.mapM_map]
  rfl

/-- the lines of an input that is a text are those of the text -/
theorem inputLines_encode (text : String) : inputLines (encode text) = .ok (partLines text) := by
  have decodes : Text.Utf8.decode ∘ Text.Utf8.encodeChars = fun cs => .ok (String.ofList cs) := by
    funext cs
    rw [Function.comp_apply, Text.Utf8.decode_eq_ok_iff, encode, String.toList_ofList]
  calc inputLines (encode text)
      = ((Text.lineParts '\n' '\r' text.toList).map Text.Utf8.encodeChars).mapM Text.Utf8.decode := by
        rw [inputLines_eq, encode, Text.lineParts_encodeChars]
    _ = (Text.lineParts '\n' '\r' text.toList).mapM fun cs => .ok (String.ofList cs) := by rw [List.mapM_map, decodes]
    _ = .ok (partLines text) := List.mapM_pure

theorem mapM_ok_of_mem {α β ε : Type} {f : α → Except ε β} {xs : List α} {ys : List β} (h : xs.mapM f = .ok ys) :
    ∀ x ∈ xs, ∃ y, f x = .ok y := by
  induction xs generalizing ys with
  | nil => simp
  | cons x xs ih =>
    rw [List.mapM_cons] at h
    cases hx : f x with
    | error e =>
      rw [hx] at h
      cases h
    | ok y =>
      cases hxs : xs.mapM f with
      | error e =>
        rw [hx, hxs] at h
        cases h
      | ok ys =>
        rw [List.forall_mem_cons]
        exact ⟨⟨y, hx⟩, ih hxs⟩

/-- an input that is read as lines is a text -/
theorem exists_text_of_inputLines {input : Bytes} {lines : List String} (h : inputLines input = .ok lines) :
    ∃ text, input = encode text := by
  have each : ∀ piece ∈ Text.pieces 0x0A input, ∃ line, Text.bare 0x0A 0x0D piece = encode line := by
    intro piece mem
    obtain ⟨line, hline⟩ := mapM_ok_of_mem h piece mem
    exact ⟨line, (Text.Utf8.decode_eq_ok_iff _ _).1 hline⟩
  obtain ⟨cs, whole⟩ := Text.exists_text_of_lines each
  rw [Text.flatten_pieces] at whole
  exact ⟨String.ofList cs, by rw [whole, encode, String.toList_ofList]⟩

/-! ## Reports of which every step succeeds -/

variable {settings : Settings} {remoteHost : Option String} {status : Status} {ttl : Ttl} {lines : List String}
  {host : Host} {c : CommandCollector} {handle : Handle}

/-- the host once the collector has opened a record and the lines are appended to it -/
def withLines (c : CommandCollector) (handle : Handle) (lines : List String) (host : Host) : Host :=
  { (c.service.openRecord host).world with disk := (appendLines handle lines host.disk).2 }

/-- every step of a report succeeds: the collector is found and opens a record, each line is appended to it, and the
collector takes it -/
structure Goes (settings : Settings) (remoteHost : Option String) (status : Status) (ttl : Ttl) (lines : List String)
    (host : Host) (c : CommandCollector) (handle : Handle) : Prop where
  found : search settings remoteHost host = .ok (Host.services c)
  opens : (c.service.openRecord host).result = .ok handle
  appends : (appendLines handle lines host.disk).1 = .ok ()
  takes : (c.service.submitRecord handle status ttl (withLines c handle lines host)).result = .ok ()

/-- an open session appends lines to the record of its handle -/
theorem appendAll_appends (n : ℕ) (h : (appendLines handle lines host.disk).1 = .ok ()) :
    ∃ k trace, appendAll (Host.services c) ⟨.opened handle, n⟩ host lines =
      ⟨.ok (), ⟨.opened handle, k⟩, { host with disk := (appendLines handle lines host.disk).2 }, trace⟩ := by
  induction lines generalizing n host with
  | nil => exact ⟨n, [], rfl⟩
  | cons text later ih =>
    obtain ⟨ok, rest⟩ := Record.appendLines_cons h
    have goes : ((Host.services c).appendLine handle text host).1 = .ok () := ok
    rcases append_cases (Host.services c) text ⟨.opened handle, n⟩ host with
      ⟨_, _, hs, -, appended⟩ | ⟨_, _, fault, hs, hr, -⟩ | ⟨hs, -⟩
    · cases hs
      rw [rest] at h ⊢
      have more : (appendLines handle later ((Host.services c).appendLine handle text host).2.disk).1 = .ok () := h
      obtain ⟨k, trace, run⟩ := ih (n + 1) more
      refine ⟨k, .appending handle text (.ok ()) :: trace, ?_⟩
      rw [appendAll, appended, Session.Outcome.andThen_of_ok rfl, run]
      rfl
    · cases hs
      rw [goes] at hr
      cases hr
    · cases hs

/-- a report of which every step succeeds ends with its handle, and leaves the lines in the record -/
theorem report_goes {token : String} {minutes : ℤ} (known : Status.parse token = .ok status)
    (lives : Ttl.ofMinutes minutes = .ok ttl) (goes : Goes settings remoteHost status ttl lines host c handle) :
    ∃ trace, report (search settings remoteHost) token minutes lines host =
      ⟨.ok handle, (c.service.submitRecord handle status ttl (withLines c handle lines host)).world, printed handle,
        trace⟩ := by
  have opened : (c.service.openRecord host).world.disk = host.disk := c.call_disk _ _ _ host
  obtain ⟨k, written, appended⟩ : ∃ k written, appendAll (Host.services c) ⟨.opened handle, 0⟩
      ((Host.services c).collector.openRecord host).world lines =
        ⟨.ok (), ⟨.opened handle, k⟩, withLines c handle lines host, written⟩ := by
    have appends := goes.appends
    rw [← opened] at appends
    obtain ⟨k, written, appended⟩ := appendAll_appends (c := c) 0 appends
    rw [opened] at appended
    exact ⟨k, written, appended⟩
  unfold report
  simp only [known, lives, goes.found]
  rcases begin_cases (Host.services c) Session.new host with ⟨_, _, hn, hr, started⟩ | ⟨_, e, -, hr, -⟩ | ⟨hn, -⟩
  · cases hn
    cases hr.symm.trans goes.opens
    simp only [started, appended]
    rcases submit_cases (Host.services c) status ttl ⟨.opened handle, k⟩ (withLines c handle lines host) with
      ⟨_, _, hs, -, sent⟩ | ⟨_, _, e, hs, hr, -⟩ | ⟨hs, -⟩
    · cases hs
      simp only [sent]
      exact ⟨_, rfl⟩
    · cases hs
      cases hr.symm.trans goes.takes
    · cases hs
  · cases hr.symm.trans goes.opens
  · exact absurd rfl hn

/-! ## Main result -/

/-- what a report that succeeded has left: its exit code is 0, the handle is printed, and the record has the texts, a line
feed behind each, behind what it held -/
structure Reported (host : Host) (handle : Handle) (texts : List String) (ended : Ended) : Prop where
  code_eq : ended.code = 0
  output_eq : ended.output = handle.text ++ "\n"
  /-- the texts are in one file, and no other is touched -/
  filed : texts ≠ [] → ∃ loc, host.disk.target? handle.path = some loc ∧
    ended.host.disk.bytes loc = host.disk.bytes loc ++ texts.flatMap lineBytes ∧
    ∀ other, other ≠ loc → ended.host.disk.node? other = host.disk.node? other
  idle : texts = [] → ended.host.disk = host.disk
  /-- a fresh record is read as the texts -/
  fresh : host.disk.Reads handle.path "" → ended.host.disk.Reads handle.path (written texts)

/-- what becomes of an input: it is reported whole, or nothing is done at all -/
structure Ingested (settings : Settings) (remoteHost : Option String) (status : Status) (ttl : Ttl)
    (lines : List String) (input : Bytes) (host : Host) (ended : Ended) : Prop where
  /-- if the input is a text and every step succeeds, its lines are reported behind those of the command line -/
  whole : ∀ text, input = encode text → ∀ c handle,
    Goes settings remoteHost status ttl (lines ++ partLines text) host c handle →
      Reported host handle (lines ++ partLines text) ended
  /-- if it is no text, no program is started and no file is made or changed -/
  nothing : (¬ ∃ text, input = encode text) → ended.code = 1 ∧ ended.output = "" ∧ ended.host = host

theorem reported_of_goes {token : String} {minutes : ℤ} (known : Status.parse token = .ok status)
    (lives : Ttl.ofMinutes minutes = .ok ttl) (goes : Goes settings remoteHost status ttl lines host c handle) :
    Reported host handle lines (.ofFinished (report (search settings remoteHost) token minutes lines host)) := by
  obtain ⟨trace, run⟩ := report_goes known lives goes
  have left : (c.service.submitRecord handle status ttl (withLines c handle lines host)).world.disk =
      (appendLines handle lines host.disk).2 := c.call_disk _ _ _ _
  rw [run]
  refine { code_eq := rfl, output_eq := rfl, filed := ?filed, idle := ?idle, fresh := ?fresh }
  case filed =>
    intro some
    obtain ⟨loc, target⟩ := Record.target?_of_appendLines goes.appends some
    obtain ⟨bytes_eq, kept⟩ := Record.appendLines_filed target goes.appends
    refine ⟨loc, target, ?_, ?_⟩
    · exact (congrArg (Disk.bytes · loc) left).trans bytes_eq
    · intro other different
      exact (congrArg (Disk.node? · other) left).trans (kept other different)
  case idle =>
    rintro rfl
    exact left
  case fresh =>
    intro reads
    have after := Record.appendLines_reads reads goes.appends
    rw [String.empty_append, ← left] at after
    exact after

/-- **Standard input is reported whole, or nothing is done.** For every command line that reads it with a status and a ttl
that are acceptable, every input, and every host with usable settings. -/
theorem input_whole_or_nothing (words : List String) (input : Bytes) (host : Host) (verbose : Bool) (config : Path)
    (token : String) (minutes : ℤ) (lines : List String) (remoteHost : Option String) (settings : Settings)
    (status : Status) (ttl : Ttl)
    (read : Invocation.ofArguments words = .ok ⟨verbose, config, .run token minutes lines true remoteHost⟩)
    (loaded : Settings.load config host.disk = .ok settings) (known : Status.parse token = .ok status)
    (lives : Ttl.ofMinutes minutes = .ok ttl) :
    Ingested settings remoteHost status ttl lines input host (interpret words input host) := by
  have carried : ∀ more, inputLines input = .ok more → interpret words input host =
      .ofFinished (report (search settings remoteHost) token minutes (lines ++ more) host) := by
    intro more h
    simp only [interpret, read, execute, loaded, observations, if_true, h]
  have refused : ∀ fault, inputLines input = .error fault →
      interpret words input host = .failed ⟨[inputHeading], .input fault⟩ host [] := by
    intro fault h
    simp only [interpret, read, execute, loaded, observations, if_true, h]
  constructor
  case whole =>
    rintro text rfl c handle goes
    rw [carried _ (inputLines_encode text)]
    exact reported_of_goes known lives goes
  case nothing =>
    intro none
    cases h : inputLines input with
    | ok more => exact absurd (exists_text_of_inputLines h) none
    | error fault =>
      rw [refused fault h]
      exact ⟨rfl, rfl, rfl⟩

/-- a line from the command line and two from an input with carriage returns; and an input whose last byte is no text -/
theorem input_whole_or_nothing_client :
    let words := ["run", "--status", "OKAY", "--ttl", "5", "--line", "a", "--stdin"]
    let host := clientHost "/r" 0
    Invocation.ofArguments words = .ok ⟨false, defaultConfig, .run "OKAY" 5 ["a"] true none⟩ ∧
      (interpret words (encode "b\r\nc\r") host).code = 0 ∧
      (interpret words (encode "b\r\nc\r") host).host.disk.Reads (.ofString "/r") "a\nb\nc\r\n" ∧
      (interpret words [0x62, 0x0A, 0xFF] host).code = 1 ∧
      (interpret words [0x62, 0x0A, 0xFF] host).host.launches = [] := by
  intro words host
  have read : Invocation.ofArguments words = .ok ⟨false, defaultConfig, .run "OKAY" 5 ["a"] true none⟩ := by
    decide +kernel
  have loaded : Settings.load defaultConfig host.disk = .ok Settings.defaults := by decide +kernel
  have known : Status.parse "OKAY" = .ok ⟨"OKAY", by decide⟩ := by decide +kernel
  have lives : Ttl.ofMinutes 5 = .ok ⟨5, by decide⟩ := by decide +kernel
  have ingested input := input_whole_or_nothing words input host _ _ _ _ _ _ _ _ _ read loaded known lives
  let c : CommandCollector := ⟨⟨encode "/sn1ff_client"⟩, [], .ofSeconds 60, none⟩
  let handle : Handle := ⟨"/r", by decide, by decide⟩
  have resolved : trySearch Settings.defaults none host = .ok c := by decide +kernel
  have found : search Settings.defaults none host = .ok (Host.services c) := by
    rcases search_cases Settings.defaults none host with ⟨c', found, searched⟩ | ⟨fault, -, searched⟩
    · cases searched.symm.trans resolved
      exact found
    · cases searched.symm.trans resolved
  have goes : Goes Settings.defaults none ⟨"OKAY", by decide⟩ ⟨5, by decide⟩ (["a"] ++ partLines "b\r\nc\r") host c
      handle := ⟨found, by decide +kernel, by decide +kernel, by decide +kernel⟩
  have reported := (ingested _).whole _ rfl c handle goes
  have fresh : host.disk.Reads handle.path "" := Or.inr ⟨by decide +kernel, rfl⟩
  have texts : written (["a"] ++ partLines "b\r\nc\r") = "a\nb\nc\r\n" := by decide +kernel
  obtain ⟨code, -, same⟩ := (ingested [0x62, 0x0A, 0xFF]).nothing fun ⟨text, h⟩ => by
    have read := (Text.Utf8.decode_eq_ok_iff _ _).2 h
    have fails : (Text.Utf8.decode [0x62, 0x0A, 0xFF]).isOk = false := by decide +kernel
    rw [read] at fails
    cases fails
  refine ⟨read, reported.code_eq, texts ▸ reported.fresh fresh, code, ?_⟩
  rw [same]
  rfl

end CheckReport.CommandLine
