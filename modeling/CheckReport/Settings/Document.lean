/-
Settings as a TOML document.

Each setting has a key in its section. A key that is missing leaves the default, a key that no setting has is ignored,
and a key whose value has another kind makes the document unusable. A section may also be written as an array of its
values in the order of its keys; a date or time in place of a section is an empty one. Settings are written with every
key in its section (`text?`), but for those that are not made.
-/
import CheckReport.Settings.Basic
import CheckReport.Toml.Reader

namespace CheckReport.Settings

open Toml (Members Value)

/-- keys of the settings of a collector, in order -/
def Collector.keys : List String := ["program", "args", "timeout_secs", "remote_host"]

/-- keys of the settings of records, in order -/
def Records.keys : List String := ["dir", "orphan_max_age_mins"]

/-- keys of the settings of logging -/
def Logging.keys : List String := ["level"]

def textOf? : Value → Option String
  | .text s => some s
  | _ => none

/-- an integer that is not negative -/
def countOf? : Value → Option Nat
  | .integer n => if 0 ≤ n then some n.toNat else none
  | _ => none

def textsOf? : Value → Option (List String)
  | .array items => items.mapM textOf?
  | .tables items => (items.map (Value.table .header)).mapM textOf?
  | _ => none

/-- the members of a section with the given keys -/
def sectionOf? (keys : List String) : Value → Option Members
  | .table _ members => some members
  | .array items => some (keys.zip items)
  | .tables items => some (keys.zip (items.map (.table .header)))
  | .moment _ => some []
  | _ => none

/-- the value of a key, or what stands for it if the key is missing -/
def field? {α : Type} (members : Members) (key : String) (read : Value → Option α) (missing : α) : Option α :=
  match members.lookup key with
  | none => some missing
  | some value => read value

def Collector.ofMembers? (members : Members) : Option Collector :=
  match field? members "program" textOf? defaultProgram,
    field? members "args" textsOf? [],
    field? members "timeout_secs" countOf? defaultTimeoutSecs,
    field? members "remote_host" (fun value => (textOf? value).map some) none with
  | some program, some args, some timeoutSecs, some remoteHost => some ⟨program, args, timeoutSecs, remoteHost⟩
  | _, _, _, _ => none

def Records.ofMembers? (members : Members) : Option Records :=
  match field? members "dir" (fun value => (textOf? value).map fun s => some (Path.ofString s)) none,
    field? members "orphan_max_age_mins" countOf? defaultOrphanMaxAgeMins with
  | some dir, some orphanMaxAgeMins => some ⟨dir, orphanMaxAgeMins⟩
  | _, _ => none

def Logging.ofMembers? (members : Members) : Option Logging :=
  (field? members "level" textOf? defaultLevel).map Logging.mk

/-! A section without keys gives what a missing section does, so the defaults of the settings and of the sections
agree. -/

theorem Collector.ofMembers?_nil : Collector.ofMembers? [] = some .defaults := rfl

theorem Records.ofMembers?_nil : Records.ofMembers? [] = some .defaults := rfl

theorem Logging.ofMembers?_nil : Logging.ofMembers? [] = some .defaults := rfl

/-- a section read by its members -/
def section? {α : Type} (keys : List String) (ofMembers? : Members → Option α) (value : Value) : Option α :=
  match sectionOf? keys value with
  | some members => ofMembers? members
  | none => none

/-- the settings that a document gives -/
def ofDocument? (document : Members) : Option Settings :=
  match field? document "collector" (section? Collector.keys Collector.ofMembers?) .defaults,
    field? document "records" (section? Records.keys Records.ofMembers?) .defaults,
    field? document "log" (section? Logging.keys Logging.ofMembers?) .defaults with
  | some collector, some records, some log => some ⟨collector, records, log⟩
  | _, _, _ => none

/-- the settings that a text gives -/
def ofText? (text : String) : Option Settings :=
  match Toml.document? text with
  | some document => ofDocument? document
  | none => none

/-! ## Writing -/

/-- what stands behind the keys of a collector's settings, in order -/
def Collector.written? (collector : Collector) : Option (List (Option String)) :=
  match Toml.quoted? collector.program, Toml.array? collector.args, collector.remoteHost.mapM Toml.quoted? with
  | some program, some args, some remoteHost =>
    some [some program, some args, some (toString collector.timeoutSecs), remoteHost]
  | _, _, _ => none

/-- what stands behind the keys of the settings of records, in order; a directory is written if it is a text -/
def Records.written? (records : Records) : Option (List (Option String)) :=
  match records.dir.mapM fun dir => dir.text?.bind Toml.quoted? with
  | some dir => some [dir, some (toString records.orphanMaxAgeMins)]
  | none => none

/-- what stands behind the key of the settings of logging -/
def Logging.written? (log : Logging) : Option (List (Option String)) :=
  (Toml.quoted? log.level).map fun level => [some level]

/-- a section as text: a line for each key, but none for a setting that is not made -/
def sectionText (name : String) (keys : List String) (written : List (Option String)) : String :=
  let lines := (keys.zip written).filterMap fun (key, value?) => value?.map fun value => s!"{key} = {value}\n"
  s!"[{name}]\n" ++ String.join lines

/-- a document that gives the settings, with an empty line between its sections; none is made if a string needs
escapes -/
def text? (settings : Settings) : Option String :=
  match settings.collector.written?, settings.records.written?, settings.log.written? with
  | some collector, some records, some log =>
    some ("\n".intercalate [sectionText "collector" Collector.keys collector,
      sectionText "records" Records.keys records, sectionText "log" Logging.keys log])
  | _, _, _ => none

/-- a document that gives the default settings; none of their strings needs an escape -/
def defaultText : String := defaults.text?.get (by decide +kernel)

end CheckReport.Settings
