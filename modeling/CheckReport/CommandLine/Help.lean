/-
Help texts.

A help text says what a command does and lists its options, one a line, their descriptions in one column.
-/
import CheckReport.CommandLine.Options

namespace CheckReport.CommandLine

def programName : String := "sn1ff-check"

/-- what a command does -/
def Scope.about : Scope → String
  | .top => "Report monitoring check results to sn1ff"
  | .run => "Open a record, append observations and submit it"
  | .begin => "Open a record and print its handle"
  | .finish => "Submit a record opened earlier"
  | .sweep => "Remove records that were opened but never submitted"
  | .initConfig => "Write the default configuration file"

/-- a word as code -/
def inBackticks (word : String) : String :=
  let mark := String.ofList [Char.ofNat 0x60]
  mark ++ word ++ mark

/-- what an option does -/
def OptionName.about : OptionName → String
  | .verbose => "Enable verbose logging"
  | .config => "Configuration file [default: /etc/sn1ff/check.toml]"
  | .help => "Print help"
  | .version => "Print version"
  | .status => "Check status (ALRT, WARN, OKAY, NONE)"
  | .ttl => "Minutes the status stays fresh"
  | .line => "Observation line to append (repeatable)"
  | .stdin => "Also append every line read from stdin"
  | .remoteHost => "Submit to this remote sn1ff server instead of the configured one"
  | .handle => "Record handle printed by " ++ inBackticks "begin"
  | .dir => "Record directory (defaults to the configured one)"
  | .maxAgeMins => "Minimum age in minutes of a record to remove"
  | .json => "Print the report as JSON"
  | .path => "Destination (defaults to --config)"

/-- how an option's value is called -/
def OptionName.placeholder (name : OptionName) : String :=
  match name with
  | .line => "TEXT"
  | _ => String.ofList (name.long.toList.map fun c => if c = '-' then '_' else c.toUpper)

/-- an option as it is written, letter first -/
def OptionName.synopsis (name : OptionName) : String :=
  let letter := match name.short? with
    | some c => String.ofList ['-', c, ',', ' ']
    | none => "    "
  letter ++ "--" ++ name.long ++ (if name.takesValue then s!" <{name.placeholder}>" else "")

/-- lines of two columns -/
def columns (rows : List (String × String)) : List String :=
  let width := rows.foldl (fun width row => max width row.1.length) 0
  rows.map fun (left, right) => "  " ++ left ++ "".pushn ' ' (width - left.length + 2) ++ right

def Scope.usage (scope : Scope) : String :=
  let needed := scope.required.map fun name => s!" --{name.long} <{name.placeholder}>"
  match scope with
  | .top => s!"Usage: {programName} [OPTIONS] <COMMAND>"
  | _ => s!"Usage: {programName} {scope.name} [OPTIONS]" ++ String.join needed

def helpText (scope : Scope) : String :=
  let commands := match scope with
    | .top =>
      ["Commands:"] ++ columns (Scope.commands.map (fun command => (command.name, command.about)) ++
        [("help", "Print this message or the help of the given subcommand(s)")]) ++ [""]
    | _ => []
  let options := scope.options.map fun name => (name.synopsis, name.about)
  "\n".intercalate ([scope.about, "", scope.usage, ""] ++ commands ++ ["Options:"] ++ columns options) ++ "\n"

end CheckReport.CommandLine
