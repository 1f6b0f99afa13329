/-!
The texts that help and version print.
-/

namespace CellRunner.CommandLine

def version : String :=
  "0.1.0"

def versionText : String :=
  "haskit " ++ version ++ "\n"

def usageLines : List String :=
  [ "haskit " ++ version ++ " - Run Edh source cells in interpreter sessions",
    "",
    "Usage: haskit [OPTIONS] <COMMAND>",
    "",
    "Commands:",
    "  lenses <FILE> [--json]      List runnable ranges at cell markers",
    "  new [COMMAND...]            Open a new session (asks when no command)",
    "  send <FILE> [RANGE] [--cmd <COMMAND>]",
    "                              Paste source into the best live session",
    "  sessions                    List live sessions",
    "",
    "Send ranges (zero-based, end exclusive):",
    "  --since <N> --before <M>    Lines N..M; M may be 'end' or -1",
    "  --selection <L:C-L:C>       Exact selection, line:character",
    "  (none)                      Whole file",
    "",
    "Options:",
    "  -w, --workspace <DIR>       Where to look for haskit.json (default: .)",
    "  --log-level <LEVEL>         error, warn, info, debug, trace",
    "  -v, --version               Show version",
    "  -h, --help                  Show this help",
    "",
    "Configuration: ~/.haskit/config.toml",
    "Log file:      ~/.haskit/haskit.log (filter via HASKIT_LOG)" ]

def usageText : String :=
  String.join (usageLines.map (· ++ "\n"))

end CellRunner.CommandLine
