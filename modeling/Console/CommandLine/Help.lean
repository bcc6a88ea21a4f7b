import Console.Text.Basic

/-! The texts that tell about the command line. -/

namespace Console.CommandLine

/-- Lines, each with its newline. -/
def linesText (l : List String) : Text := l.flatMap fun s => s.toList ++ ['\n']

/-- The version in one line. -/
def versionText : Text := linesText ["repline 0.1.0"]

/-- What stands above the options. -/
def about : List String :=
  ["An interactive read-eval-print console with persistent command history", "",
    "Usage: repline [OPTIONS]", "", "Options:"]

/-- The short help, an option a line. -/
def shortHelpText : Text := linesText (about ++
  ["  -f, --flavor <FLAVOR>    REPL flavor to start [possible values: calc, shell]",
    "  -c, --config <CONFIG>    Config file path",
    "  -e, --execute <EXECUTE>  Evaluate one expression and exit",
    "      --debug              Enable debug logging",
    "  -h, --help               Print help (see more with '--help')",
    "  -V, --version            Print version"])

/-- The long help. -/
def longHelpText : Text := linesText (about ++
  ["  -f, --flavor <FLAVOR>",
    "          REPL flavor to start",
    "",
    "          Possible values:",
    "          - calc:  Arithmetic calculator",
    "          - shell: `sh -c` command runner",
    "",
    "  -c, --config <CONFIG>",
    "          Config file path",
    "",
    "  -e, --execute <EXECUTE>",
    "          Evaluate one expression and exit",
    "",
    "      --debug",
    "          Enable debug logging",
    "",
    "  -h, --help",
    "          Print help (see a summary with '-h')",
    "",
    "  -V, --version",
    "          Print version"])

end Console.CommandLine
