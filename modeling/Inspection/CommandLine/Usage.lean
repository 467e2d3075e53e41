/-! Usage texts name every command with its arguments and options. -/

namespace Inspection.CommandLine

/-- What a usage text is about. -/
inductive Topic where
  | program
  | serve
  | inspect
  | create
  /-- The command that prints usage texts. -/
  | help
  deriving DecidableEq, Repr

/-- The usage text of a topic. -/
def Topic.usage : Topic → String
  | program => "Cost-aware variable inspection for debug adapters

Usage: varlens <COMMAND>

Commands:
  dap      Serve the Debug Adapter Protocol on stdio for a recorded snapshot
  inspect  Print the local variable descriptors of one frame as JSON
  init     Write a commented varlens.toml into the current directory
  help     Print this message or the help of the given subcommand(s)

Options:
  -h, --help     Print help
  -V, --version  Print version
"
  | serve => "Serve the Debug Adapter Protocol on stdio for a recorded snapshot

Usage: varlens dap [OPTIONS] <SNAPSHOT>

Arguments:
  <SNAPSHOT>  Path to the snapshot JSON file

Options:
      --config <CONFIG>  Config file (default: nearest varlens.toml)
  -h, --help             Print help
"
  | inspect => "Print the local variable descriptors of one frame as JSON

Usage: varlens inspect [OPTIONS] <SNAPSHOT>

Arguments:
  <SNAPSHOT>  Path to the snapshot JSON file

Options:
      --config <CONFIG>  Config file (default: nearest varlens.toml)
      --frame <FRAME>    Frame index, most recent first [default: 0]
      --stop <STOP>      Recorded stop to inspect [default: 0]
  -h, --help             Print help
"
  | create => "Write a commented varlens.toml into the current directory

Usage: varlens init

Options:
  -h, --help  Print help
"
  | help => "Print this message or the help of the given subcommand(s)

Usage: varlens help [COMMAND]...

Arguments:
  [COMMAND]...  Print help for the subcommand(s)
"

/-- The name and the version of the program. -/
def version : String := "varlens 0.3.0\n"

end Inspection.CommandLine
