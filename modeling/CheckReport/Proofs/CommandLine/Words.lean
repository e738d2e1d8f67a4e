/-
Writing command lines.

An option is written as one word, its value behind an equals sign, or as two. Any value can be written in one word. In a
word of its own it can be written if it does not look like an option.

- `gives_joined`, `gives_apart`: either way of writing gives the option this value, wherever it stands.
- `scan_written`, `ofArguments_written`: what a written command line says.
- `ofSettings_run`, `ofSettings_finish`: the options of an outcome and a remote host.
-/
import CheckReport.CommandLine.Invocation
import CheckReport.Proofs.Record.Minutes

namespace CheckReport.CommandLine

variable {scope : Scope} {name : OptionName} {options : Options} {words : List String}

/-- an option and its value in one word -/
def joined (name : OptionName) (value : String) : String := "--" ++ name.long ++ "=" ++ value

/-- an option and its value in two words -/
def apart (name : OptionName) (value : String) : List String := ["--" ++ name.long, value]

/-- an option of the scope that has a value -/
def Scope.Values (scope : Scope) (name : OptionName) : Prop := name ∈ scope.options ∧ name.takesValue = true

/-! ## Names of options -/

theorem byLong?_long (h : name ∈ scope.options) : scope.byLong? name.long = some name := by
  cases scope <;> cases name <;> revert h <;> decide

theorem ne_equals_of_mem_long {c : Char} (h : c ∈ name.long.toList) : decide (c ≠ '=') = true := by
  have all : name.long.toList.all (fun c => decide (c ≠ '=')) = true := by cases name <;> decide
  exact List.all_eq_true.1 all c h

theorem exists_long_eq_cons (name : OptionName) : ∃ c cs, name.long.toList = c :: cs := by
  cases name <;> exact ⟨_, _, rfl⟩

/-! ## One option -/

theorem longWord_value (h : scope.Values name) (value : List Char) :
    longWord scope options (name.long.toList ++ '=' :: value) =
      (options.add scope name (String.ofList value)).map fun options => (options, none) := by
  have front : (name.long.toList ++ '=' :: value).takeWhile (fun c => decide (c ≠ '=')) = name.long.toList := by
    rw [List.takeWhile_append_of_pos fun _ => ne_equals_of_mem_long, List.takeWhile_cons_of_neg (by decide),
      List.append_nil]
  have behind : (name.long.toList ++ '=' :: value).dropWhile (fun c => decide (c ≠ '=')) = '=' :: value := by
    rw [List.dropWhile_append_of_pos fun _ => ne_equals_of_mem_long, List.dropWhile_cons_of_neg (by decide)]
  simp only [longWord, front, behind, String.ofList_toList, byLong?_long h.1, h.2, if_true]

theorem longWord_alone (h : scope.Values name) :
    longWord scope options name.long.toList = .ok (options, some name) := by
  have front : name.long.toList.takeWhile (fun c => decide (c ≠ '=')) = name.long.toList := by cases name <;> decide
  have behind : name.long.toList.dropWhile (fun c => decide (c ≠ '=')) = [] := by cases name <;> decide
  simp only [longWord, front, behind, String.ofList_toList, byLong?_long h.1, h.2, if_true]

/-- a word with two hyphens in front, if anything follows them -/
theorem scan_long {word : String} {c : Char} {cs : List Char} (h : word.toList = '-' :: '-' :: c :: cs) :
    scan scope options none (word :: words) = match longWord scope options (c :: cs) with
      | .ok (options, waiting) => scan scope options waiting words
      | .error stop => .error stop := by
  have not_two : word ≠ "--" := by
    rintro rfl
    cases h
  have not_one : word ≠ "-" := by
    rintro rfl
    cases h
  rw [scan, if_neg not_two, h, if_pos (by simp [not_one])]
  rfl

theorem scan_waiting (value : String) :
    scan scope options (some name) (value :: words) = if !name.admitsWord value then .error .unusable
      else match options.add scope name value with
        | .ok options => scan scope options none words
        | .error stop => .error stop := rfl

/-- an option in two words; the second is not looked at unless it may be a value -/
theorem scan_apart (h : scope.Values name) (value : String) :
    scan scope options none (apart name value ++ words) = if !name.admitsWord value then .error .unusable
      else match options.add scope name value with
        | .ok options => scan scope options none words
        | .error stop => .error stop := by
  obtain ⟨c, cs, long⟩ := exists_long_eq_cons name
  have word : ("--" ++ name.long).toList = '-' :: '-' :: c :: cs := by
    rw [String.toList_append, long]
    rfl
  rw [apart, List.cons_append, scan_long word, ← long, longWord_alone h, List.singleton_append]
  exact scan_waiting value

theorem admitted_of_scan {value : String} {scanned : Scanned} (h : scope.Values name)
    (told : scan scope options none (apart name value ++ words) = .ok scanned) :
    name.admitsWord value = true ∧ ∃ later, scan scope later none words = .ok scanned := by
  rw [scan_apart h] at told
  split_ifs at told with refused
  rw [Bool.not_eq_true, Bool.not_eq_false'] at refused
  cases added : options.add scope name value with
  | error stop =>
    rw [added] at told
    cases told
  | ok later =>
    rw [added] at told
    exact ⟨refused, later, told⟩

/-- the words give the option this value, wherever they stand -/
def Gives (scope : Scope) (written : List String) (name : OptionName) (value : String) : Prop :=
  ∀ options rest, scan scope options none (written ++ rest) = match Options.add options scope name value with
    | .ok options => scan scope options none rest
    | .error stop => .error stop

theorem gives_joined (h : scope.Values name) (value : String) : Gives scope [joined name value] name value := by
  intro options rest
  obtain ⟨c, cs, long⟩ := exists_long_eq_cons name
  have word : (joined name value).toList = '-' :: '-' :: c :: (cs ++ '=' :: value.toList) := by
    rw [joined, String.toList_append, String.toList_append, String.toList_append, long]
    simp
  rw [List.singleton_append, scan_long word, ← List.cons_append, ← long, longWord_value h, String.ofList_toList]
  cases options.add scope name value <;> rfl

theorem gives_apart (h : scope.Values name) {value : String} (admitted : name.admitsWord value = true) :
    Gives scope (apart name value) name value := by
  intro options rest
  rw [scan_apart h, admitted, Bool.not_true, if_neg Bool.false_ne_true]

/-! ## Whole command lines -/

/-- an option to be written, with its value -/
abbrev Setting := OptionName × String

/-- words for some options, one option after the other -/
abbrev Written (scope : Scope) (written : List (List String)) (settings : List Setting) : Prop :=
  List.Forall₂ (fun words setting => Gives scope words setting.1 setting.2) written settings

/-- the options that some settings make -/
def Options.ofSettings (scope : Scope) (settings : List Setting) : Except Stop Options :=
  settings.foldlM (fun options setting => Options.add options scope setting.1 setting.2) []

theorem add_of_read {value : String} {given : Given} (read : name.read? value = some given)
    (new : options.has name = false) : options.add scope name value = .ok (options ++ [(name, given)]) := by
  have not_help : name ≠ .help := by
    rintro rfl
    cases read
  have not_version : name ≠ .version := by
    rintro rfl
    cases read
  rw [Options.add, if_neg not_help, if_neg not_version, new, Bool.and_false, if_neg Bool.false_ne_true, read]

/-- the options are what the settings say, one by one -/
abbrev Reads (settings : List Setting) (options : Options) : Prop :=
  List.Forall₂ (fun setting option => option.1 = setting.1 ∧ setting.1.read? setting.2 = some option.2) settings options

theorem foldlM_of_reads {settings : List Setting} {later : Options} (h : Reads settings later) (earlier : Options)
    (distinct : ((earlier ++ later).map Prod.fst).Nodup) :
    settings.foldlM (fun options setting => Options.add options scope setting.1 setting.2) earlier =
      .ok (earlier ++ later) := by
  induction h generalizing earlier with
  | nil =>
    rw [List.append_nil]
    rfl
  | @cons setting option settings later read _ ih =>
    have new : earlier.has setting.1 = false := by
      rw [Options.has, List.any_eq_false]
      intro old mem same
      rw [List.map_append, List.map_cons, read.1] at distinct
      refine List.disjoint_of_nodup_append distinct (List.mem_map.2 ⟨old, mem, rfl⟩) ?_
      rw [of_decide_eq_true same]
      exact List.mem_cons_self
    rw [List.foldlM_cons, add_of_read read.2 new, ← read.1]
    have next := ih (earlier ++ [option]) (by rwa [List.append_assoc])
    rw [List.append_assoc] at next
    exact next

theorem ofSettings_of_reads {settings : List Setting} {options : Options} (h : Reads settings options)
    (distinct : (options.map Prod.fst).Nodup) : Options.ofSettings scope settings = .ok options :=
  foldlM_of_reads h [] distinct

theorem scan_written_from {written : List (List String)} {settings : List Setting} (h : Written scope written settings)
    (options : Options) (rest : List String) : scan scope options none (written.flatten ++ rest) =
      match settings.foldlM (fun options setting => Options.add options scope setting.1 setting.2) options with
      | .ok options => scan scope options none rest
      | .error stop => .error stop := by
  induction h generalizing options with
  | nil => rfl
  | @cons words setting written settings first _ ih =>
    rw [List.flatten_cons, List.append_assoc, first, List.foldlM_cons]
    cases options.add scope setting.1 setting.2 with
    | error stop => rfl
    | ok options => exact ih options

theorem scan_written {written : List (List String)} {settings : List Setting} (h : Written scope written settings)
    (rest : List String) : scan scope [] none (written.flatten ++ rest) =
      match Options.ofSettings scope settings with
      | .ok options => scan scope options none rest
      | .error stop => .error stop := scan_written_from h [] rest

theorem scan_command (h : scope ∈ Scope.commands) :
    scan .top options none (scope.name :: words) = .ok ⟨options, some (scope, words)⟩ := by
  cases scope <;> first | rfl | exact absurd h (by decide)

theorem scan_of_ofArguments {invocation : Invocation} (h : scope ∈ Scope.commands)
    (read : Invocation.ofArguments (scope.name :: words) = .ok invocation) :
    ∃ scanned, scan scope [] none words = .ok scanned := by
  simp only [Invocation.ofArguments, scan_command h] at read
  cases told : scan scope [] none words with
  | error stop =>
    rw [told] at read
    cases read
  | ok scanned => exact ⟨scanned, rfl⟩

/-- options in front of a command, and options of the command -/
theorem ofArguments_written {front behind : List (List String)} {shared own : List Setting}
    (first : Written .top front shared) (second : Written scope behind own) (h : scope ∈ Scope.commands) :
    Invocation.ofArguments (front.flatten ++ scope.name :: behind.flatten) =
      match Options.ofSettings .top shared, Options.ofSettings scope own with
      | .error stop, _ => .error stop
      | .ok _, .error stop => .error stop
      | .ok before, .ok options =>
        match command? scope options with
        | none => .error .unusable
        | some command =>
          .ok ⟨before.has .verbose || options.has .verbose, (options.config?.or before.config?).getD defaultConfig,
            command⟩ := by
  have told := scan_written second []
  rw [List.append_nil] at told
  rw [Invocation.ofArguments, scan_written first]
  cases Options.ofSettings .top shared with
  | error stop => rfl
  | ok before =>
    simp only [scan_command h, told]
    cases Options.ofSettings scope own with
    | error stop => rfl
    | ok options => rfl

/-! ## The options of a submission -/

/-- where to submit -/
def address (remoteHost : Option String) : List Setting := remoteHost.toList.map fun name => (.remoteHost, name)

/-- what to submit -/
def outcome (status : Status) (ttl : Ttl) : List Setting := [(.status, status.token), (.ttl, ttl.text)]

/-- the options that an outcome and an address make -/
def submissionOptions (status : Status) (ttl : Ttl) (remoteHost : Option String) : Options :=
  [(.status, .status status.token), (.ttl, .ttl ttl.minutes)] ++
    remoteHost.toList.map fun name => (.remoteHost, .remoteHost name)

theorem reads_submission (status : Status) (ttl : Ttl) (remoteHost : Option String) :
    Reads (outcome status ttl ++ address remoteHost) (submissionOptions status ttl remoteHost) := by
  have minutes : OptionName.ttl.read? ttl.text = some (.ttl ttl.minutes) := by
    rw [OptionName.read?, ttl.int?_text, Option.map_some]
  refine .cons ⟨rfl, rfl⟩ (.cons ⟨rfl, minutes⟩ ?_)
  cases remoteHost with
  | none => exact .nil
  | some name => exact .cons ⟨rfl, rfl⟩ .nil

theorem ofSettings_run (status : Status) (ttl : Ttl) (remoteHost : Option String) :
    Options.ofSettings .run (outcome status ttl ++ address remoteHost) =
      .ok (submissionOptions status ttl remoteHost) := by
  refine ofSettings_of_reads (reads_submission status ttl remoteHost) ?_
  cases remoteHost <;> simp [submissionOptions]

theorem ofSettings_finish (handle : String) (status : Status) (ttl : Ttl) (remoteHost : Option String) :
    Options.ofSettings .finish ((.handle, handle) :: (outcome status ttl ++ address remoteHost)) =
      .ok ((.handle, .handle handle) :: submissionOptions status ttl remoteHost) := by
  refine ofSettings_of_reads (.cons ⟨rfl, rfl⟩ (reads_submission status ttl remoteHost)) ?_
  cases remoteHost <;> simp [submissionOptions]

end CheckReport.CommandLine
