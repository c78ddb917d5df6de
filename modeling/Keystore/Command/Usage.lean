/-
# Usage and help

The texts that explain the command, laid out for lines of eighty columns.
-/
import Keystore.Command.Arguments

namespace Keystore
namespace Command

/-- The name of the command. -/
def title : String := "secure-root"

/-- How the command is used. -/
def usage : String :=
  "usage: secure-root [-h] [--config CONFIG] [--json] [--verbose]\n" ++
  "                   name [namespace]\n"

/-- What the command does, and what its arguments mean. -/
def help : String :=
  usage ++
  "\n" ++
  "Find the directory holding a node's security material.\n" ++
  "\n" ++
  "positional arguments:\n" ++
  "  name             Node name, e.g. talker\n" ++
  "  namespace        Node namespace, e.g. /robot1 (default: /)\n" ++
  "\n" ++
  "options:\n" ++
  "  -h, --help       show this help message and exit\n" ++
  "  --config CONFIG  YAML config file; environment variables take precedence\n" ++
  "                   over it\n" ++
  "  --json           Print the full lookup result as JSON\n" ++
  "  --verbose        Log each lookup step to stderr\n"

/-- What is said when the arguments cannot be understood. -/
def complaint (fault : UsageFault) : String :=
  usage ++ title ++ ": error: " ++ fault.message ++ "\n"

end Command
end Keystore
