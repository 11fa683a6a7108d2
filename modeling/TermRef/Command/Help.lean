/-
TermRef/Command/Help.lean

What the command line says about itself.

The texts are laid out for a terminal of eighty columns.
-/
import TermRef.Command.Options

namespace TermRef.Command

/-- Lines of text, each ended. -/
def endLines (ls : List String) : String := String.join (ls.map (· ++ "\n"))

/-- How the program is called. -/
def usage : String := endLines [
  "usage: trrt [-h] [-c CONFIG] [-o OUTPUT] [-s SCOPEDIR] [-v VSNTAG]",
  "            [-int INTERPRETER] [-con CONVERTER] [--verbose]",
  "            [glob]"]

/-- What the pattern and the options mean. -/
def meanings : String := endLines [
  "",
  "The CLI for the Term Reference Resolution Tool",
  "",
  "positional arguments:",
  "  glob                  Glob pattern of the (input) files to process (default:",
  "                        *)",
  "",
  "options:",
  "  -h, --help            show this help message and exit",
  "  -c CONFIG, --config CONFIG",
  "                        Path of the tool's (YAML) configuration file",
  "  -o OUTPUT, --output OUTPUT",
  "                        (Root) directory for output files to be written",
  "  -s SCOPEDIR, --scopedir SCOPEDIR",
  "                        Path of the scope directory where the SAF is located",
  "  -v VSNTAG, --vsntag VSNTAG",
  "                        Default version to use when no version is set in term",
  "                        ref (default: latest)",
  "  -int INTERPRETER, --interpreter INTERPRETER",
  "                        Term ref syntax: default, alt, or a custom regex",
  "  -con CONVERTER, --converter CONVERTER",
  "                        Output template: default, markdown, http, essif, or a",
  "                        custom template",
  "  --verbose             Log every term ref"]

/-- The help. -/
def help : String := usage ++ meanings

/-- What is said when arguments are refused. -/
def refusal (e : UsageError) : String := usage ++ "trrt: error: " ++ e.message ++ "\n"

end TermRef.Command
