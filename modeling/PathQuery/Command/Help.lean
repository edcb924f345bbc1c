import PathQuery.Command.Arguments
import PathQuery.Command.Manual

/-!
Short descriptions of the commands and their options.
-/

namespace PathQuery.Command

def programHelp : String :=
  Manual.lines
    ["jsift - path queries, conditions and fallbacks over JSON documents",
     "",
     "Usage: jsift <COMMAND>",
     "",
     "Commands:",
     "  check  Validate and execute a query",
     "  docs   List documentation categories",
     "  doc    Show documentation for a specific category",
     "  help   Print this message or the help of the given subcommand(s)",
     "",
     "Options:",
     "  -h, --help     Print help",
     "  -V, --version  Print version"]

def checkHelp : String :=
  Manual.lines
    ["Validate and execute a query",
     "",
     "Usage: jsift check [OPTIONS] <QUERY>",
     "",
     "Arguments:",
     "  <QUERY>  The query to execute",
     "",
     "Options:",
     "  -i, --input <INPUT>    JSON input (reads from stdin if not provided)",
     "  -c, --config <CONFIG>  Configuration file (aliases, fallback, fuzzy matching)",
     "  -p, --pretty           Pretty-print the output",
     "      --syntax-only      Only validate syntax, don't execute",
     "  -v, --verbose          Log alias expansion, fuzzy matches and fallbacks to stderr",
     "  -h, --help             Print help"]

def docsHelp : String :=
  Manual.lines
    ["List documentation categories",
     "",
     "Usage: jsift docs",
     "",
     "Options:",
     "  -h, --help  Print help"]

def docHelp : String :=
  Manual.lines
    ["Show documentation for a specific category",
     "",
     "Usage: jsift doc <CATEGORY>",
     "",
     "Arguments:",
     "  <CATEGORY>  Category name (use 'jsift docs' to list categories)",
     "",
     "Options:",
     "  -h, --help  Print help"]

def helpText : Topic → String
  | .program => programHelp
  | .check => checkHelp
  | .docs => docsHelp
  | .doc => docHelp

/-- What is said about arguments that give no command. -/
def usageText : String :=
  Manual.lines
    ["error: the arguments give no command",
     "",
     "Usage: jsift <COMMAND>",
     "",
     "For more information, try '--help'."]

def versionText : String :=
  "jsift 0.1.0\n"

end PathQuery.Command
