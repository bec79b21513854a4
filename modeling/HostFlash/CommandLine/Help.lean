import HostFlash.CommandLine.Arguments
import HostFlash.Text.Column

/-! # Help

The help texts of the program and of its commands, put together from the descriptions of commands
and options.
-/

namespace HostFlash.CommandLine

/-- The name of the program. -/
def programName : String := "pnorctl"

/-- The version of the program. -/
def programVersion : String := "0.1.0"

/-- What a command does. -/
def Command.about : Command → String
  | version => "Read and decode the VERSION partition"
  | status => "Publish the host firmware image and show its activation"
  | partitions => "List partitions cleared by a factory reset"
  | factoryReset => "Clear every partition flagged for reprovisioning"
  | clearGuard => "Clear the guard record partition only"
  | listTools => "List supported flash tool backends"

/-- What a topic is about. -/
def Topic.about : Topic → String
  | program => "Host firmware (PNOR) version and factory reset tool"
  | command c => c.about
  | help => "Print this message or the help of the given subcommand(s)"

/-- Entries in two columns, with the first one as wide as its widest text. -/
def columns (entries : List (String × String)) : List String :=
  let width := (entries.map (·.1.length)).foldl max 0
  entries.map fun (name, text) => "  " ++ Text.padRight width name ++ "  " ++ text

/-- The options that are known for a topic, with their descriptions. -/
def Topic.options (topic : Topic) : List (String × String) :=
  let confirms :=
    match topic with
    | command c => c.needsConfirmation
    | _ => false
  [("-v, --verbose...", "Verbosity level (-v, -vv)")] ++
    (if confirms then [("    --yes", "Confirm the destructive operation")] else []) ++
    [("-c, --config <CONFIG>",
      "Configuration file (TOML) Defaults to /etc/pnorctl.toml when present"),
     ("-t, --tool <TOOL>",
      "Flash tool backend [available: pflash, dummy[:image=<file>]] [default: pflash]"),
     ("-h, --help", "Print help")] ++
    (if topic = program then [("-V, --version", "Print version")] else [])

/-- The commands with their descriptions. -/
def commandEntries : List (String × String) :=
  Command.all.map (fun c => (c.word, c.about)) ++ [("help", Topic.help.about)]

/-- How a topic is used. -/
def Topic.usage : Topic → String
  | program => programName ++ " [OPTIONS] <COMMAND>"
  | command c => programName ++ " " ++ c.word ++ " [OPTIONS]"
  | help => programName ++ " help [COMMAND]..."

/-- The lists of a help text, under their titles. -/
def Topic.lists (topic : Topic) : List (String × List String) :=
  match topic with
  | program =>
      [("Commands:", columns commandEntries), ("Options:", columns topic.options)]
  | command _ => [("Options:", columns topic.options)]
  | help => [("Arguments:", columns [("[COMMAND]...", "Print help for the subcommand(s)")])]

/-- Lines, each with its end. -/
def joinLines (lines : List String) : String :=
  lines.foldl (fun text line => text ++ line ++ "\n") ""

theorem toList_joinLines (lines : List String) :
    (joinLines lines).toList = lines.flatMap fun line => line.toList ++ ['\n'] := by
  have hfold : ∀ text : String, (lines.foldl (fun text line => text ++ line ++ "\n") text).toList =
      text.toList ++ lines.flatMap fun line => line.toList ++ ['\n'] := by
    induction lines with
    | nil => simp
    | cons line rest ih => simp [ih]
  exact hfold ""

/-- The help text of a topic. -/
def Topic.text (topic : Topic) : String :=
  joinLines ([topic.about, "", "Usage: " ++ topic.usage] ++
    topic.lists.flatMap fun (title, lines) => "" :: title :: lines)

end HostFlash.CommandLine
