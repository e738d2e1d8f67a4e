/-
Invocations.

`Invocation.ofArguments` reads the words of a command line from left to right: options of the whole program, a command,
options of the command. The first word that fits nowhere makes the command line unusable; a request for help or for the
version ends the reading where it stands.
-/
import CheckReport.CommandLine.Options

namespace CheckReport.CommandLine

inductive Command where
  | run (status : String) (ttl : Int) (lines : List String) (stdin : Bool) (remoteHost : Option String)
  | begin
  | finish (handle status : String) (ttl : Int) (remoteHost : Option String)
  | sweep (dir : Option Path) (maxAgeMins : Option Nat) (json : Bool)
  | initConfig (path : Option Path)
  deriving DecidableEq, Repr

structure Invocation where
  verbose : Bool
  config : Path
  command : Command
  deriving DecidableEq, Repr

/-- why no command is carried out -/
inductive Stop where
  | help (scope : Scope)
  | version
  | unusable
  deriving DecidableEq, Repr

/-- the options read so far, first one first -/
abbrev Options := List (OptionName × Given)

namespace Options

def has (options : Options) (name : OptionName) : Bool := options.any fun option => option.1 = name

/-- one more option; none but a repeatable one is given twice -/
def add (options : Options) (scope : Scope) (name : OptionName) (value : String) : Except Stop Options :=
  if name = .help then .error (.help scope)
  else if name = .version then .error .version
  else if !name.repeats && options.has name then .error .unusable
  else
    match name.read? value with
    | some given => .ok (options ++ [(name, given)])
    | none => .error .unusable

/-- the first value that `pick` takes -/
def find? {α : Type} (options : Options) (pick : Given → Option α) : Option α :=
  options.findSome? fun option => pick option.2

def config? (options : Options) : Option Path := options.find? fun
  | .config path => some path
  | _ => none

def status? (options : Options) : Option String := options.find? fun
  | .status token => some token
  | _ => none

def ttl? (options : Options) : Option Int := options.find? fun
  | .ttl minutes => some minutes
  | _ => none

def lines (options : Options) : List String := options.filterMap fun
  | (_, .line text) => some text
  | _ => none

def remoteHost? (options : Options) : Option String := options.find? fun
  | .remoteHost name => some name
  | _ => none

def handle? (options : Options) : Option String := options.find? fun
  | .handle raw => some raw
  | _ => none

def dir? (options : Options) : Option Path := options.find? fun
  | .dir path => some path
  | _ => none

def maxAgeMins? (options : Options) : Option Nat := options.find? fun
  | .maxAgeMins minutes => some minutes
  | _ => none

def path? (options : Options) : Option Path := options.find? fun
  | .path path => some path
  | _ => none

end Options

/-- the letters behind one hyphen: switches, and at the end perhaps an option whose value is the rest, behind an equals
sign or not; an option without a rest waits for the next word -/
def letters (scope : Scope) (options : Options) : List Char → Except Stop (Options × Option OptionName)
  | [] => .ok (options, none)
  | c :: cs =>
    match scope.byShort? c with
    | none => .error .unusable
    | some name =>
      if !name.takesValue then
        match options.add scope name "" with
        | .ok options => letters scope options cs
        | .error stop => .error stop
      else
        let value := match cs with
          | '=' :: rest => some rest
          | [] => none
          | rest => some rest
        match value with
        | none => .ok (options, some name)
        | some value => (options.add scope name (String.ofList value)).map fun options => (options, none)

/-- a word behind two hyphens: an option, with a value behind an equals sign or not -/
def longWord (scope : Scope) (options : Options) (word : List Char) : Except Stop (Options × Option OptionName) :=
  match scope.byLong? (String.ofList (word.takeWhile (· ≠ '='))), word.dropWhile (· ≠ '=') with
  | none, _ => .error .unusable
  | some name, [] =>
    if name.takesValue then .ok (options, some name)
    else (options.add scope name "").map fun options => (options, none)
  | some name, _ :: value =>
    if name.takesValue then (options.add scope name (String.ofList value)).map fun options => (options, none)
    else .error .unusable

/-- a word that starts with a hyphen -/
def optionWord (scope : Scope) (options : Options) (word : List Char) : Except Stop (Options × Option OptionName) :=
  match word with
  | '-' :: '-' :: rest => longWord scope options rest
  | _ => letters scope options word.tail

/-- what the words of one scope say, and the words from the command on -/
structure Scanned where
  options : Options
  command : Option (Scope × List String)

/-- what a request for help asks for: the whole program, or the command that is named -/
def helpFor : List String → Stop
  | [] => .help .top
  | ["help"] => .help .top
  | word :: rest =>
    match Scope.named? word, rest with
    | some scope, [] => .help scope
    | _, _ => .unusable

/-- read the words of one scope; `waiting` is the option whose value comes next -/
def scan (scope : Scope) (options : Options) (waiting : Option OptionName) : List String → Except Stop Scanned
  | [] => if waiting.isSome then .error .unusable else .ok ⟨options, none⟩
  | word :: words =>
    match waiting with
    | some name =>
      if !name.admitsWord word then .error .unusable
      else
        match options.add scope name word with
        | .ok options => scan scope options none words
        | .error stop => .error stop
    | none =>
      if word = "--" then (if words.isEmpty then .ok ⟨options, none⟩ else .error .unusable)
      else if word.toList.head? = some '-' && word ≠ "-" then
        match optionWord scope options word.toList with
        | .ok (options, waiting) => scan scope options waiting words
        | .error stop => .error stop
      else if scope ≠ .top then .error .unusable
      else if word = "help" then .error (helpFor words)
      else
        match Scope.named? word with
        | some command => .ok ⟨options, some (command, words)⟩
        | none => .error .unusable

/-- the command of a scope, if the options that it needs are given -/
def command? (scope : Scope) (options : Options) : Option Command :=
  match scope with
  | .top => none
  | .run =>
    match options.status?, options.ttl? with
    | some status, some ttl => some (.run status ttl options.lines (options.has .stdin) options.remoteHost?)
    | _, _ => none
  | .begin => some .begin
  | .finish =>
    match options.handle?, options.status?, options.ttl? with
    | some handle, some status, some ttl => some (.finish handle status ttl options.remoteHost?)
    | _, _, _ => none
  | .sweep => some (.sweep options.dir? options.maxAgeMins? (options.has .json))
  | .initConfig => some (.initConfig options.path?)

/-- where the settings lie unless the command line says otherwise -/
def defaultConfig : Path := .ofString "/etc/sn1ff/check.toml"

/-- the invocation that the words of a command line make; what stands behind the command wins over what stands before
it -/
def Invocation.ofArguments (words : List String) : Except Stop Invocation :=
  match scan .top [] none words with
  | .error stop => .error stop
  | .ok ⟨_, none⟩ => .error .unusable
  | .ok ⟨before, some (scope, rest)⟩ =>
    match scan scope [] none rest with
    | .error stop => .error stop
    | .ok ⟨behind, _⟩ =>
      match command? scope behind with
      | none => .error .unusable
      | some command =>
        .ok ⟨before.has .verbose || behind.has .verbose,
          (behind.config?.or before.config?).getD defaultConfig, command⟩

end CheckReport.CommandLine
