/-
What starting a program depends on.

A program gets its arguments as they are, behind those that scripts put in front of them. Which program it is, and what
stands in front, is told by its name alone: arguments make a difference only if one of them is longer than the system
takes, or if they cannot be handed over at all because of a NUL.

- `load_append`, `loadNamed_append`: to start a program with arguments is to start it without, and to pass them on.
- `run_cases`, `run_noted`: all that a run can do, said once.
- `run_of_serves`: a program that does well whenever it is started does well with every argument that can be handed over.
-/
import CheckReport.Collector.Start
import CheckReport.Proofs.Text.Utf8

namespace CheckReport.Host

open Text.Utf8 (Bytes)

/-- the start with more arguments behind its own -/
def Start.passing (start : Start) (arguments : List Bytes) : Start :=
  { start with arguments := start.arguments ++ arguments }

/-- the arguments are as short as the system wants them -/
def AreShort (arguments : List Bytes) : Prop := ∀ argument ∈ arguments, argument.length ≤ maxArgument

variable (host : Host) {arguments : List Bytes}

theorem any_long_append (short : AreShort arguments) (front : List Bytes) :
    (front ++ arguments).any (maxArgument < ·.length) = front.any (maxArgument < ·.length) := by
  have none : arguments.any (maxArgument < ·.length) = false := by
    rw [List.any_eq_false]
    intro argument mem
    simpa using short argument mem
  rw [List.any_append, none, Bool.or_false]

/-- scripts may lead from one file to the next; the arguments stay at the end -/
theorem load_append (short : AreShort arguments) (files : ℕ) (path : Path) (front : List Bytes) :
    host.load files path (front ++ arguments) = (host.load files path front).map (·.passing arguments) := by
  induction files generalizing path front with
  | zero =>
    rw [load, load, any_long_append short]
    cases host.executable path with
    | error fault => rfl
    | ok found =>
      simp only
      split <;> rfl
  | succ files ih =>
    rw [load, load, any_long_append short]
    cases host.executable path with
    | error fault => rfl
    | ok found =>
      simp only
      split
      · rfl
      cases host.program? found.1 with
      | some program => rfl
      | none =>
        cases Script.ofBytes? found.2 with
        | none => rfl
        | some script =>
          have passed := ih script.interpreter (script.argument.toList ++ path.bytes :: front)
          rw [List.append_assoc, List.cons_append] at passed
          exact passed

theorem loadFirst_append (short : AreShort arguments) (denied : Bool) (last : Disk.Fault) (paths : List Path) :
    host.loadFirst arguments denied last paths =
      (host.loadFirst [] denied last paths).map (·.passing arguments) := by
  induction paths generalizing denied last with
  | nil => rfl
  | cons path paths ih =>
    have first := host.load_append short maxFiles path []
    rw [List.nil_append] at first
    rw [loadFirst, loadFirst, first]
    cases host.load maxFiles path [] with
    | ok start => rfl
    | error fault => cases fault <;> first | rfl | exact ih _ _

/-- **What is started does not depend on the arguments**, which are passed on as they are. -/
theorem loadNamed_append (short : AreShort arguments) (name : Path) :
    host.loadNamed name arguments = (host.loadNamed name []).map (·.passing arguments) := by
  unfold loadNamed
  split_ifs
  · rfl
  · have whole := host.load_append short maxFiles name []
    rw [List.nil_append] at whole
    exact whole
  · exact host.loadFirst_append short _ _ _

/-- only short arguments are passed on -/
theorem short_of_load {files : ℕ} {path : Path} {start : Start} (front : List Bytes)
    (h : host.load files path (front ++ arguments) = .ok start) : AreShort arguments := by
  intro argument mem
  by_contra long
  have found : (front ++ arguments).any (maxArgument < ·.length) = true :=
    List.any_eq_true.2 ⟨argument, List.mem_append_right _ mem, by simpa using long⟩
  unfold load at h
  cases hx : host.executable path with
  | error fault =>
    rw [hx] at h
    cases h
  | ok file =>
    rw [hx] at h
    simp only [found, if_true] at h
    cases h

/-- what is started is a program of the host -/
theorem program?_of_load {files : ℕ} {path : Path} {start : Start} (h : host.load files path arguments = .ok start) :
    host.program? start.location = some start.program := by
  induction files generalizing path arguments with
  | zero =>
    unfold load at h
    split at h
    · cases h
    · split at h <;> cases h
  | succ files ih =>
    unfold load at h
    split at h
    · cases h
    · split at h
      · cases h
      · simp only at h
        split at h
        · rename_i program found
          cases h
          exact found
        · split at h
          · exact ih h
          · cases h

theorem exists_load_of_loadFirst {denied : Bool} {last : Disk.Fault} {paths : List Path} {start : Start}
    (h : host.loadFirst arguments denied last paths = .ok start) :
    ∃ path, host.load maxFiles path arguments = .ok start := by
  induction paths generalizing denied last with
  | nil => cases h
  | cons path paths ih =>
    unfold loadFirst at h
    split at h
    · rename_i found
      cases h
      exact ⟨path, found⟩
    · exact ih h
    · exact ih h
    · exact ih h
    · cases h

theorem exists_load_of_loadNamed {name : Path} {start : Start} (h : host.loadNamed name arguments = .ok start) :
    ∃ path, host.load maxFiles path arguments = .ok start := by
  unfold loadNamed at h
  split_ifs at h
  · exact ⟨name, h⟩
  · exact host.exists_load_of_loadFirst h

/-- a program that was started with arguments can be started without, and has got the arguments -/
theorem loadNamed_ok {name : Path} {start : Start} (h : host.loadNamed name arguments = .ok start) :
    ∃ own, host.loadNamed name [] = .ok own ∧ start = own.passing arguments := by
  obtain ⟨path, loaded⟩ := host.exists_load_of_loadNamed h
  have short : AreShort arguments := host.short_of_load [] loaded
  rw [host.loadNamed_append short] at h
  cases own : host.loadNamed name [] with
  | error fault =>
    rw [own] at h
    cases h
  | ok own' =>
    rw [own] at h
    cases h
    exact ⟨own', rfl, rfl⟩

/-! ## Runs -/

/-- the arguments and the name can be handed over to the system -/
def IsPlain (name : Path) (arguments : List Bytes) : Prop := name.hasNul = false ∧ ∀ argument ∈ arguments, 0 ∉ argument

theorem isPlain_iff (name : Path) (arguments : List Bytes) :
    IsPlain name arguments ↔ ¬ (name.hasNul || arguments.any (·.contains 0)) = true := by
  simp [IsPlain]

theorem run_of_not_plain {name : Path} (h : ¬ IsPlain name arguments) :
    host.run name arguments = (.error .nulInArgument, host) := by
  rw [isPlain_iff, not_not] at h
  rw [run, if_pos h]

/-- the host once a program has been started and has answered -/
def noting (start : Start) (response : Response) : Host :=
  { host with launches := host.launches ++ [⟨start.location, start.arguments, response.ending⟩] }

/-- a run fails and leaves the host as it was, or the program is started, answers, and the launch is noted -/
theorem run_cases (name : Path) (arguments : List Bytes) :
    (∃ fault, host.run name arguments = (.error fault, host)) ∨
    (∃ start response, IsPlain name arguments ∧ host.loadNamed name arguments = .ok start ∧
      start.program host.disk host.launches.length start.arguments = .ok response ∧
      host.run name arguments = (.ok response, host.noting start response)) := by
  by_cases plain : IsPlain name arguments
  · have proper := (isPlain_iff name arguments).1 plain
    rw [run, if_neg proper]
    cases hl : host.loadNamed name arguments with
    | error fault => exact Or.inl ⟨fault, rfl⟩
    | ok start =>
      cases hp : start.program host.disk host.launches.length start.arguments with
      | error fault =>
        refine Or.inl ⟨fault, ?_⟩
        simp only [hp]
      | ok response =>
        refine Or.inr ⟨start, response, plain, rfl, hp, ?_⟩
        simp only [hp, noting]
  · exact Or.inl ⟨_, host.run_of_not_plain plain⟩

/-- a run is noted on the host, and nothing else changes -/
theorem run_launches (name : Path) (arguments : List Bytes) :
    ∃ launches, (host.run name arguments).2 = { host with launches := launches } := by
  rcases host.run_cases name arguments with ⟨fault, failed⟩ | ⟨start, response, -, -, -, ran⟩
  · exact ⟨host.launches, congrArg Prod.snd failed⟩
  · exact ⟨_, congrArg Prod.snd ran⟩

/-- the host after a run with these arguments: what was started has got them, behind those of scripts, and is noted -/
def Noted (arguments : List Bytes) (ran : Except Disk.Fault Response) (after : Host) : Prop :=
  match ran with
  | .error _ => after = host
  | .ok response => ∃ location front,
      after = { host with launches := host.launches ++ [⟨location, front ++ arguments, response.ending⟩] }

theorem run_noted (name : Path) (arguments : List Bytes) :
    host.Noted arguments (host.run name arguments).1 (host.run name arguments).2 := by
  rcases host.run_cases name arguments with ⟨fault, failed⟩ | ⟨start, response, -, loaded, -, ran⟩
  · rw [failed]
    exact rfl
  · obtain ⟨own, -, rfl⟩ := host.loadNamed_ok loaded
    rw [ran]
    exact ⟨own.location, own.arguments, rfl⟩

theorem Noted.disk_eq {host after : Host} {ran : Except Disk.Fault Response} (h : host.Noted arguments ran after) :
    after.disk = host.disk := by
  cases ran with
  | error fault => exact congrArg Host.disk h
  | ok response =>
    obtain ⟨location, front, rfl⟩ := h
    rfl

/-- a program of this name is installed, and if it is started now it ends with success, whatever its arguments are -/
def Serves (name : Path) : Prop :=
  ∃ start, host.loadNamed name [] = .ok start ∧ ∀ arguments,
    ∃ response, start.program host.disk host.launches.length arguments = .ok response ∧ response.ending = .exited 0

theorem run_of_serves {name : Path} (serves : host.Serves name) (plain : IsPlain name arguments)
    (short : AreShort arguments) :
    ∃ response, (host.run name arguments).1 = .ok response ∧ response.ending = .exited 0 := by
  obtain ⟨start, installed, succeeds⟩ := serves
  obtain ⟨response, answered, ended⟩ := succeeds (start.passing arguments).arguments
  have loaded : host.loadNamed name arguments = .ok (start.passing arguments) := by
    rw [host.loadNamed_append short, installed]
    rfl
  have answered' : (start.passing arguments).program host.disk host.launches.length (start.passing arguments).arguments =
      .ok response := answered
  refine ⟨response, ?_, ended⟩
  rw [run, if_neg ((isPlain_iff name arguments).1 plain), loaded]
  simp only [answered']

end CheckReport.Host
