import OperatorLowering.CommandLine.Arguments

/-!
The help texts of the command line.
-/

namespace OperatorLowering.CommandLine

def programName : String := "sarl"

def versionText : String := s!"{programName} 0.1.0\n"

namespace Subcommand

def summary : Subcommand → String
  | lower => "Resolve an operator query and print its Java lowering"
  | check => "Validate a serialized compilation unit"
  | table => "Dump the promotion table (debug)"
  | tokens => "Tokenize a query and dump tokens (debug)"

def usage : Subcommand → List String
  | lower =>
    ["Usage: sarl lower [OPTIONS] <QUERY>", "", "Arguments:",
      "  <QUERY>  Query such as \"left: Short - right: AtomicInteger!\" or " ++
        "\"x: AtomicLong as byte\"",
      "", "Options:", "      --json  Print the lowering descriptor as JSON",
      "  -h, --help  Print help"]
  | check =>
    ["Usage: sarl check [OPTIONS] <FILE>", "", "Arguments:", "  <FILE>  JSON compilation unit", "",
      "Options:", "      --config <CONFIG>  sarl.toml configuration",
      "      --source <SOURCE>  SARL source the unit's spans point into, for labelled reports",
      "  -h, --help             Print help"]
  | table =>
    ["Usage: sarl table [OPTIONS]", "", "Options:",
      "      --op <OP>  Restrict to one operator: + - * / % ** neg", "  -h, --help     Print help"]
  | tokens =>
    ["Usage: sarl tokens <QUERY>", "", "Arguments:", "  <QUERY>  ", "", "Options:",
      "  -h, --help  Print help"]

end Subcommand

def overview : List String :=
  ["SARL compiler core - numeric lowering and early-exit analysis", "", "Usage: sarl <COMMAND>", "",
    "Commands:"] ++
  Subcommand.all.map (fun c => "  " ++ c.name.pushn ' ' (8 - c.name.length) ++ c.summary) ++
  ["  help    Print this message or the help of the given subcommand(s)", "", "Options:",
    "  -h, --help     Print help", "  -V, --version  Print version"]

def helpText (topic : Option Subcommand) : String :=
  let lines := match topic with
    | some c => c.summary :: "" :: c.usage
    | none => overview
  String.join (lines.map (· ++ "\n"))

end OperatorLowering.CommandLine
