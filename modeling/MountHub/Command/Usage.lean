/-! The help text. -/
namespace MountHub

/-- What the program does and how it is called; it names the usual configuration file. -/
def usage (configFile : String) : String :=
  String.intercalate "\n" [
    "yorozu-server - storage mount daemon",
    "",
    "USAGE:",
    "    yorozu-server [OPTIONS] [COMMAND]",
    "",
    "COMMANDS:",
    "    (default)                     Mount all storages and wait for Ctrl-C",
    "    list                          List persisted storages",
    "",
    "OPTIONS:",
    "    --config <PATH>               Config file (default: " ++ configFile ++ ")",
    "    --help, -h                    Show this help",
    "",
    "LOGGING:",
    "    RUST_LOG overrides the [log] filter from the config file.",
    ""]

end MountHub
