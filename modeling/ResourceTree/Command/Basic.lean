import ResourceTree.Action
import ResourceTree.Command.Usage
import ResourceTree.Graph.Layout

/-!
# Commands

The commands of the program, and how they are typed: the words are a command, a call for help, or
neither.
-/

namespace ResourceTree
set_option autoImplicit false

/-- What can be done with the configuration. -/
inductive ConfigCommand where
  | get (key : Option String)
  | set (key value : String)
  | list
  | path
  | validate
  deriving DecidableEq, Repr

inductive Command where
  /-- The listings of a snapshot, with the events of a file. -/
  | summary (snapshot : String) (events : Option String)
  /-- The layout of the graph of a snapshot. -/
  | layout (snapshot : String) (root : Option String) (direction : Option Direction)
  /-- What recorded frames do to a snapshot, or to an empty tree. -/
  | replay (messages : String) (snapshot : Option String)
  | fetch
  | describe (uid : String)
  | action (action : Action) (uid : String)
  | config (command : ConfigCommand)
  deriving DecidableEq, Repr

/-- What the words of a command line ask for. -/
inductive Request where
  | help (text : String)
  | run (debug : Bool) (c : Command)
  /-- The words do not fit; the text says how they would. -/
  | misuse (usage : String)
  deriving DecidableEq, Repr

namespace Command

/-- A path may not be empty. -/
def isPath (word : String) : Bool := word ≠ ""

def key : Operand :=
  { name := "KEY", about := "Configuration key (e.g., \"apiUrl\", \"layout.direction\")" }

/-- The commands on the configuration. -/
def configUsages : List Usage :=
  [{ words := ["fluxtree", "config", "get"], about := "Get configuration value"
     operands := [{ key with isOptional := true }] },
    { words := ["fluxtree", "config", "set"], about := "Set configuration value"
      operands := [key, { name := "VALUE", about := "Configuration value" }] },
    { words := ["fluxtree", "config", "list"], about := "List all configuration" },
    { words := ["fluxtree", "config", "path"], about := "Show configuration file path" },
    { words := ["fluxtree", "config", "validate"], about := "Validate configuration" }]

/-- The commands other than the group of those on the configuration. -/
def usages : List Usage :=
  [{ words := ["fluxtree", "summary"], about := "Print the tree summary of a snapshot file"
     operands :=
      [{ name := "SNAPSHOT"
         about := "Tree snapshot (JSON, or base64+gzip as sent over the realtime channel)"
         accepts := isPath }]
     parameters :=
      [{ name := "--events", about := "Optional JSON array of events", accepts := isPath }] },
    { words := ["fluxtree", "layout"], about := "Project and lay out the graph rooted at a node"
      operands := [{ name := "SNAPSHOT", accepts := isPath }]
      parameters :=
        [{ name := "--root"
           about := "Node uid to root the graph at (defaults to the tree root)" },
          { name := "--direction", about := "Layout direction: right or down"
            accepts := fun word => (Direction.ofWord? word).isSome }] },
    { words := ["fluxtree", "replay"]
      about := "Replay newline-delimited realtime messages against a snapshot"
      operands :=
        [{ name := "MESSAGES", about := "Newline-delimited JSON envelopes", accepts := isPath }]
      parameters :=
        [{ name := "--snapshot", about := "Starting tree (empty if omitted)"
           accepts := isPath }] },
    { words := ["fluxtree", "fetch"]
      about := "Fetch tree and events from the backend and print the summary" },
    { words := ["fluxtree", "describe"], about := "Print the backend's description of a resource"
      operands := [{ name := "UID" }] },
    { words := ["fluxtree", "action"], about := "Run an action on a Flux resource"
      operands :=
        [{ name := "ACTION", about := "[possible values: reconcile, suspend, resume]"
           accepts := fun word => (Action.ofName? word).isSome },
          { name := "UID" }] }]

/-- The name of a command and what it does. -/
def entry (u : Usage) : String × String := ((u.words.getLast?).getD "", u.about)

/-- The command that describes the others. -/
def helpEntry : String × String :=
  ("help", "Print this message or the help of the given subcommand(s)")

/-- The group of commands on the configuration. -/
def configUsage : Usage :=
  { words := ["fluxtree", "config"], about := "Configuration management"
    commands := configUsages.map entry ++ [helpEntry] }

/-- The program itself. -/
def usage : Usage :=
  { words := ["fluxtree"], about := "Inspect and act on the Flux resource tree"
    flags := [('d', "debug", "Enable debug logging")]
    commands := usages.map entry ++ [entry configUsage, helpEntry] }

def usage? (name : String) (us : List Usage) : Option Usage := us.find? fun u => (entry u).1 = name

/-- How the description of commands is typed, in the group of a usage. -/
def helpUsage (u : Usage) : Usage :=
  { words := u.words ++ [helpEntry.1], about := helpEntry.2
    operands :=
      [{ name := "COMMAND", about := "Print help for the subcommand(s)", isOptional := true
         isRepeated := true }]
    hasHelp := false }

/-- The command of a name with what was given to it. -/
def ofGiven? (name : String) (g : Given) : Option Command :=
  match name, g.operands with
  | "summary", [snapshot] => some (.summary snapshot (g.value? "--events"))
  | "layout", [snapshot] =>
    some (.layout snapshot (g.value? "--root")
      ((g.value? "--direction").bind Direction.ofWord?))
  | "replay", [messages] => some (.replay messages (g.value? "--snapshot"))
  | "fetch", [] => some .fetch
  | "describe", [uid] => some (.describe uid)
  | "action", [word, uid] => (Action.ofName? word).map (.action · uid)
  | _, _ => none

/-- The command on the configuration of a name with what was given to it. -/
def ofGivenConfig? (name : String) (g : Given) : Option Command :=
  match name, g.operands with
  | "get", operands => some (.config (.get operands.head?))
  | "set", [key, value] => some (.config (.set key value))
  | "list", [] => some (.config .list)
  | "path", [] => some (.config .path)
  | "validate", [] => some (.config .validate)
  | _, _ => none

/-- The request that the words after a command make. -/
def request (debug : Bool) (u : Usage) (ofGiven? : String → Given → Option Command)
    (words : List String) : Request :=
  match u.scan {} words with
  | .help => .help u.help
  | .misuse => .misuse u.line
  | .given g => match ofGiven? (entry u).1 g with
    | some c => .run debug c
    | none => .misuse u.line

/-- The description of the command that words lead to. -/
def describeWords : List String → Request
  | [] => .help usage.help
  | ["help"] => .help (helpUsage usage).help
  | ["config"] => .help configUsage.help
  | ["config", "help"] => .help (helpUsage configUsage).help
  | ["config", name] => match usage? name configUsages with
    | some u => .help u.help
    | none => .misuse configUsage.line
  | [name] => match usage? name usages with
    | some u => .help u.help
    | none => .misuse usage.line
  | _ => .misuse usage.line

/-- The words after the group of commands on the configuration. -/
def configRequest (debug : Bool) : List String → Request
  | [] => .misuse configUsage.line
  | "help" :: words => describeWords ("config" :: words)
  | name :: words =>
    if isHelp name then .help configUsage.help
    else match usage? name configUsages with
      | some u => request debug u ofGivenConfig? words
      | none => .misuse configUsage.line

/-- The words from the name of a command on. -/
def namedRequest (debug : Bool) : List String → Request
  | [] => .misuse usage.line
  | "help" :: words => describeWords words
  | "config" :: words => configRequest debug words
  | name :: words => match usage? name usages with
    | some u => request debug u ofGiven? words
    | none => .misuse usage.line

/-- The debug flag after the letters of one word, or the request that a letter makes. The flag is
given once at most. -/
def readLetters : Bool → List Char → Except Request Bool
  | debug, [] => .ok debug
  | false, 'd' :: letters => readLetters true letters
  | _, 'h' :: _ => .error (.help usage.help)
  | _, _ => .error (.misuse usage.line)

/-- What words ask for, with the debug flag as it is so far. -/
def firstRequest (debug : Bool) : List String → Request
  | [] => .misuse usage.line
  | word :: words =>
    if word = "--help" then .help usage.help
    else if word = "--debug" then
      if debug then .misuse usage.line else firstRequest true words
    else if isOption word then
      match readLetters debug (word.toList.drop 1) with
      | .ok debug => firstRequest debug words
      | .error r => r
    else namedRequest debug (word :: words)

end Command

/-- What the words of a command line ask for; flags come before the command. -/
def Request.ofWords : List String → Request := Command.firstRequest false

end ResourceTree
