import SettingsStore.Cli.Arguments

/-!
# Help

The pages of help: what a command does, how it is called, and its arguments and options in columns.
-/

namespace SettingsStore.Cli

namespace Topic

def about : Topic → String
  | .program => "Inspect and change a configuration store"
  | .show => "Print the fields the roles may read, with secrets masked"
  | .set => "Apply a JSON patch file, e.g. \x7b\"log_settings\": \x7b\"console_level\": \"DEBUG\"\x7d\x7d"
  | .validate => "Check a config file without touching any store"
  | .overrides => "List settings currently overridden by environment variables"
  | .permissions => "List known permissions"
  | .help => "Print this message or the help of the given subcommand(s)"

/-- The arguments of a command, with what is said of each. -/
def arguments : Topic → List (String × String)
  | .set => [("<PATCH>", "")]
  | .validate => [("<FILE>", "")]
  | .help => [("[COMMAND]...", "Print help for the subcommand(s)")]
  | _ => []

def usage : Topic → String
  | .program => "config-cli [OPTIONS] <COMMAND>"
  | topic => String.join ("config-cli " :: topic.name :: topic.arguments.map (" " ++ ·.1))

end Topic

/-- A text with blanks after it up to a width. -/
def padded (width : Nat) (s : String) : String :=
  s ++ String.ofList (List.replicate (width - s.length) ' ')

/-- Rows of two columns. -/
def columns (rows : List (String × String)) : String :=
  let width := (rows.map (·.1.length)).foldl max 0
  String.join (rows.map fun (a, b) => "  " ++ padded width a ++ "  " ++ b ++ "\n")

def part (title : String) (rows : List (String × String)) : List String :=
  if rows.isEmpty then [] else [title ++ ":\n" ++ columns rows]

def options (env : Environment) : Topic → List (String × String)
  | .program =>
    [("-c, --config <CONFIG>", "Store DSN: a file path, sqlite://<path> or sqlite::memory: [env: "
        ++ storeVariable ++ "=" ++ (env.find? storeVariable).getD "" ++ "] [default: "
        ++ defaultStore ++ "]"),
      ("-r, --roles <ROLES>", "Roles to act as, comma separated [default: " ++ defaultRole ++ "]"),
      ("-h, --help", "Print help")]
  | .help => []
  | _ => [("-h, --help", "Print help")]

def helpText (env : Environment) (topic : Topic) : String :=
  let commands := if topic = .program then Topic.commands.map fun t => (t.name, t.about) else []
  Text.join "\n" ([topic.about ++ "\n", "Usage: " ++ topic.usage ++ "\n"]
    ++ part "Commands" commands ++ part "Arguments" topic.arguments
    ++ part "Options" (options env topic))

end SettingsStore.Cli
