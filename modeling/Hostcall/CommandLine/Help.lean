import Hostcall.CommandLine.Request

/-!
# Help

What the program says about itself.
-/

namespace Hostcall.CommandLine

def versionText : String :=
  "simio 0.1.0\n"

/-- How the program is called. -/
def usageText : String :=
  "Usage: simio <COMMAND>\n"

def Topic.text : Topic → String
  | .program =>
    "Command-line driver replaying guest syscall scripts against simio-core\n\n" ++ usageText ++
    "\nCommands:\n" ++
    "  run   Replay a YAML list of guest syscalls against the console\n" ++
    "  help  Print this message or the help of the given subcommand(s)\n" ++
    "\nOptions:\n" ++
    "  -h, --help     Print help\n" ++
    "  -V, --version  Print version\n"
  | .run =>
    "Replay a YAML list of guest syscalls against the console\n" ++
    "\nUsage: simio run [OPTIONS] <SCRIPT>\n" ++
    "\nArguments:\n" ++
    "  <SCRIPT>  \n" ++
    "\nOptions:\n" ++
    "  -c, --config <CONFIG>          TOML file with I/O settings\n" ++
    "      --stdin-file <STDIN_FILE>  Feed standard input from this file instead of the terminal\n" ++
    "  -h, --help                     Print help\n"
  | .help =>
    "Print this message or the help of the given subcommand(s)\n" ++
    "\nUsage: simio help [COMMAND]...\n" ++
    "\nArguments:\n" ++
    "  [COMMAND]...  Print help for the subcommand(s)\n"

end Hostcall.CommandLine
