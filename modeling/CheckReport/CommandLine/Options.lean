/-
Options of the command line.

Each command has its own options; three of them belong to every command and may also stand in front of it. An option is
named by a word, some also by a letter, and its value, if it takes one, is read at once.
-/
import CheckReport.Decimal.Integer
import CheckReport.Disk.Path

namespace CheckReport.CommandLine

/-- the commands, and what stands in front of them -/
inductive Scope where
  | top
  | run
  | begin
  | finish
  | sweep
  | initConfig
  deriving DecidableEq, Repr

inductive OptionName where
  | verbose
  | config
  | help
  | version
  | status
  | ttl
  | line
  | stdin
  | remoteHost
  | handle
  | dir
  | maxAgeMins
  | json
  | path
  deriving DecidableEq, Repr

/-- an option with its value -/
inductive Given where
  | verbose
  | config (path : Path)
  | status (token : String)
  | ttl (minutes : Int)
  | line (text : String)
  | stdin
  | remoteHost (name : String)
  | handle (raw : String)
  | dir (path : Path)
  | maxAgeMins (minutes : Nat)
  | json
  | path (path : Path)
  deriving DecidableEq, Repr

namespace OptionName

def long : OptionName → String
  | .verbose => "verbose"
  | .config => "config"
  | .help => "help"
  | .version => "version"
  | .status => "status"
  | .ttl => "ttl"
  | .line => "line"
  | .stdin => "stdin"
  | .remoteHost => "remote-host"
  | .handle => "handle"
  | .dir => "dir"
  | .maxAgeMins => "max-age-mins"
  | .json => "json"
  | .path => "path"

def short? : OptionName → Option Char
  | .verbose => some 'v'
  | .help => some 'h'
  | .version => some 'V'
  | .status => some 's'
  | .ttl => some 't'
  | .line => some 'l'
  | .handle => some 'f'
  | _ => none

def takesValue : OptionName → Bool
  | .verbose => false
  | .help => false
  | .version => false
  | .stdin => false
  | .json => false
  | _ => true

/-- an option that may be given more than once -/
def repeats (name : OptionName) : Bool := name = .line

/-- a path that is not empty -/
def path? (value : String) : Option Path := if value.isEmpty then none else some (.ofString value)

/-- the option with a value that it admits; a switch ignores it -/
def read? (name : OptionName) (value : String) : Option Given :=
  match name with
  | .verbose => some .verbose
  | .config => (path? value).map .config
  | .help => none
  | .version => none
  | .status => some (.status value)
  | .ttl => (Decimal.int? Decimal.minSigned64 Decimal.maxSigned64 value).map .ttl
  | .line => some (.line value)
  | .stdin => some .stdin
  | .remoteHost => some (.remoteHost value)
  | .handle => some (.handle value)
  | .dir => (path? value).map .dir
  | .maxAgeMins => (Decimal.nat? Decimal.maxUnsigned64 value).map .maxAgeMins
  | .json => some .json
  | .path => (path? value).map .path

/-- whether a word of its own may be the option's value: a hyphen in front makes it an option, unless the word is the
hyphen alone or a negative number where one is expected -/
def admitsWord (name : OptionName) (word : String) : Bool :=
  match word.toList with
  | '-' :: c :: cs => name = .ttl && (c :: cs).all Decimal.isDigit
  | _ => true

end OptionName

namespace Scope

/-- the options that belong to every command -/
def shared : List OptionName := [.verbose, .config, .help]

def options : Scope → List OptionName
  | .top => shared ++ [.version]
  | .run => [.status, .ttl, .line, .stdin, .remoteHost] ++ shared
  | .begin => shared
  | .finish => [.handle, .status, .ttl, .remoteHost] ++ shared
  | .sweep => [.dir, .maxAgeMins, .json] ++ shared
  | .initConfig => [.path] ++ shared

/-- the options without which a command cannot do its work -/
def required : Scope → List OptionName
  | .run => [.status, .ttl]
  | .finish => [.handle, .status, .ttl]
  | _ => []

def name : Scope → String
  | .top => ""
  | .run => "run"
  | .begin => "begin"
  | .finish => "end"
  | .sweep => "sweep"
  | .initConfig => "init-config"

/-- the commands in the order in which they are listed -/
def commands : List Scope := [.run, .begin, .finish, .sweep, .initConfig]

def named? (word : String) : Option Scope := commands.find? fun scope => scope.name == word

def byLong? (scope : Scope) (word : String) : Option OptionName :=
  scope.options.find? fun option => option.long == word

def byShort? (scope : Scope) (letter : Char) : Option OptionName :=
  scope.options.find? fun option => option.short? == some letter

end Scope

end CheckReport.CommandLine
