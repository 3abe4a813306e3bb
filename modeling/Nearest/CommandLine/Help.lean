import Nearest.CommandLine.Arguments

/-!
# Help

The texts that explain the program and its actions, each topic one.
-/

namespace Nearest.CommandLine

/-- How an option tells which variable of the environment may hold its value, and what it holds. -/
def environmentNote (env : List (String × String)) (name : String) : String :=
  "[env: " ++ name ++ "=" ++ (env.lookup name).getD "" ++ "]"

/-- The lines that explain a topic. -/
def Topic.lines (env : List (String × String)) : Topic → List String
  | .program =>
    ["Exact cosine vector store with snapshot persistence",
      "",
      "Usage: vecsim [OPTIONS] <COMMAND>",
      "",
      "Commands:",
      "  seed   Insert random vectors",
      "  query  Run a similarity query",
      "  count  Report the number of resident vectors",
      "  del    Delete keys",
      "  flush  Remove every key",
      "  help   Print this message or the help of the given subcommand(s)",
      "",
      "Options:",
      "      --config <CONFIG>        JSON configuration file",
      "      --data-dir <DATA_DIR>    Data directory holding the snapshot "
        ++ environmentNote env "VECSIM_DATA_DIR",
      "      --dimension <DIMENSION>  Vector dimension " ++ environmentNote env "VECSIM_DIMENSION",
      "  -v, --verbose                Enable debug logging",
      "  -h, --help                   Print help"]
  | .seed =>
    ["Insert random vectors",
      "",
      "Usage: vecsim seed [OPTIONS]",
      "",
      "Options:",
      "  -c, --count <COUNT>    Number of vectors to insert [default: 1000]",
      "  -b, --batch <BATCH>    Progress is reported every `batch` inserts [default: 1000]",
      "  -p, --prefix <PREFIX>  Key prefix [default: key]",
      "  -h, --help             Print help"]
  | .query =>
    ["Run a similarity query",
      "",
      "Usage: vecsim query [OPTIONS]",
      "",
      "Options:",
      "  -k, --k <K>            Number of results to return [default: 5]",
      "  -f, --filter <FILTER>  Key filter (`*`, an exact key, or a glob)",
      "  -v, --vector <VECTOR>  Query vector as comma-separated values; random if omitted",
      "  -h, --help             Print help"]
  | .count =>
    ["Report the number of resident vectors",
      "",
      "Usage: vecsim count",
      "",
      "Options:",
      "  -h, --help  Print help"]
  | .del =>
    ["Delete keys",
      "",
      "Usage: vecsim del [KEYS]...",
      "",
      "Arguments:",
      "  [KEYS]...  ",
      "",
      "Options:",
      "  -h, --help  Print help"]
  | .flush =>
    ["Remove every key",
      "",
      "Usage: vecsim flush",
      "",
      "Options:",
      "  -h, --help  Print help"]
  | .help =>
    ["Print this message or the help of the given subcommand(s)",
      "",
      "Usage: vecsim help [COMMAND]...",
      "",
      "Arguments:",
      "  [COMMAND]...  Print help for the subcommand(s)"]

end Nearest.CommandLine
