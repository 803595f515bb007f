import ScriptTree.Command.Arguments

/-!
# Help

The texts that describe the command line.
-/

namespace ScriptTree.Command
set_option autoImplicit false

/-- The name and the version of the program. -/
def versionText : String :=
  "estemplate 0.1.0"

/-- The lines of a text. -/
def lines (texts : List String) : String :=
  String.intercalate "\n" texts

/-- The help for a topic. -/
def Topic.text : Topic → String
  | .program =>
    lines
      ["Inspect ESTree template builder output",
        "",
        "Usage: estemplate <COMMAND>",
        "",
        "Commands:",
        "  render     Render a serialized template tree (JSON) to JavaScript",
        "  operators  Print the operator type table",
        "  help       Print this message or the help of the given subcommand(s)",
        "",
        "Options:",
        "  -h, --help     Print help",
        "  -V, --version  Print version"]
  | .render =>
    lines
      ["Render a serialized template tree (JSON) to JavaScript",
        "",
        "Usage: estemplate render [OPTIONS] <INPUT>",
        "",
        "Arguments:",
        "  <INPUT>  Input tree JSON file",
        "",
        "Options:",
        "  -o, --output <OUTPUT>  Output file (defaults to stdout)",
        "  -h, --help             Print help"]
  | .operators =>
    lines
      ["Print the operator type table",
        "",
        "Usage: estemplate operators [OPTIONS]",
        "",
        "Options:",
        "  -t, --table <TABLE>    Operator table JSON file (defaults to the built-in table)",
        "  -f, --format <FORMAT>  Output format [default: text] [possible values: text, json]",
        "  -h, --help             Print help"]
  | .help =>
    lines
      ["Print this message or the help of the given subcommand(s)",
        "",
        "Usage: estemplate help [COMMAND]...",
        "",
        "Arguments:",
        "  [COMMAND]...  Print help for the subcommand(s)"]

/-- What is said about wrong arguments. -/
def misuseText : String :=
  lines ["Usage: estemplate <COMMAND>", "", "For more information, try '--help'."]

end ScriptTree.Command
