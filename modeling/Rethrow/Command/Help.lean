import Rethrow.Command.Options

/-!
The texts that tell how the program is used.
-/
set_option autoImplicit false

namespace Rethrow.Command

def mainHelp : List String :=
  ["usage: causelint [-h] \x7banalyze\x7d ...",
    "",
    "Find errors thrown in catch blocks that drop the caught error.",
    "",
    "positional arguments:",
    "  \x7banalyze\x7d",
    "    analyze   Analyze JavaScript/TypeScript files or directories",
    "",
    "options:",
    "  -h, --help  show this help message and exit",
    "",
    "Examples:",
    "  causelint analyze src",
    "  causelint analyze --fix src/server.ts",
    "  causelint analyze --changed-since origin/main .",
    "  causelint analyze --error-constructor HttpError --format json .",
    "        "]

def analyzeHelp : List String :=
  ["usage: causelint analyze [-h] [--fix] [--format \x7btext,json\x7d]",
    "                         [--error-constructor NAME] [--changed-since REV]",
    "                         [--config CONFIG] [-v] [--log-format \x7bconsole,json\x7d]",
    "                         [paths ...]",
    "",
    "positional arguments:",
    "  paths                 Files or directories to analyze (default: current",
    "                        directory)",
    "",
    "options:",
    "  -h, --help            show this help message and exit",
    "  --fix                 Rewrite files in place with the available fixes",
    "  --format \x7btext,json\x7d  Report format (default: text)",
    "  --error-constructor NAME",
    "                        Additional error constructor to check (repeatable)",
    "  --changed-since REV   Only analyze files changed in Git since REV",
    "  --config CONFIG       Config file (default: causelint.toml or pyproject.toml",
    "                        in the current directory)",
    "  -v, --verbose         Log progress to stderr (-vv for debug)",
    "  --log-format \x7bconsole,json\x7d",
    "                        Log renderer for stderr (default: console)"]

def linesText (lines : List String) : String := String.join (lines.map (· ++ "\n"))

def Program.help : Program → String
  | main => linesText mainHelp
  | analyze => linesText analyzeHelp

def Stop.output : Stop → String
  | help program => program.help
  | _ => ""

def Stop.exitCode : Stop → Nat
  | help _ => 0
  | _ => 2

end Rethrow.Command
