/-
Log entries.

An entry has a level and a message. `failOpen` is for housekeeping whose failure must not stop the work around it: a
failure becomes one warning and no value.
-/

namespace CheckReport.Log

inductive Level where
  | error
  | warn
  | info
  deriving DecidableEq, Repr

def Level.name : Level → String
  | .error => "ERROR"
  | .warn => "WARN"
  | .info => "INFO"

/-- whether entries of a level are shown under the level that the settings name: it and everything graver; a name that
is no level, or one of a finer level, shows all -/
def Level.shownUnder (setting : String) : Level → Bool
  | .error => setting != "off"
  | .warn => setting != "off" && setting != "error"
  | .info => setting != "off" && setting != "error" && setting != "warn"

structure Entry where
  level : Level
  message : String
  deriving DecidableEq, Repr

def error (message : String) : Entry := ⟨.error, message⟩

def warn (message : String) : Entry := ⟨.warn, message⟩

def info (message : String) : Entry := ⟨.info, message⟩

/-- the levels of a log, entry by entry -/
def levels (log : List Entry) : List Level := log.map (·.level)

@[simp] theorem levels_append (log more : List Entry) : levels (log ++ more) = levels log ++ levels more :=
  List.map_append

/-- the warning about housekeeping that failed, under the name of what was tried -/
def forgiven (name message : String) : Entry := warn s!"{name} failed (fail-open): {message}"

section FailOpen

variable {ε α : Type} (describe : ε → String) (name : String)

/-- the value of a successful result; a failure becomes a warning -/
def failOpen : Except ε α → Option α × List Entry
  | .ok value => (some value, [])
  | .error e => (none, [forgiven name (describe e)])

@[simp] theorem failOpen_ok (value : α) : failOpen describe name (.ok value) = (some value, []) := rfl

@[simp] theorem failOpen_error (e : ε) :
    failOpen describe name (.error e : Except ε α) = (none, [forgiven name (describe e)]) := rfl

/-- **Housekeeping fails with one warning, and succeeds without a word.** -/
theorem levels_failOpen (result : Except ε α) :
    levels (failOpen describe name result).2 =
      if (failOpen describe name result).1.isSome then [] else [.warn] := by
  cases result with
  | ok value => rfl
  | error e => rfl

end FailOpen

end CheckReport.Log
