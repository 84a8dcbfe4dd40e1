import ResourceTree.Command.Basic
import ResourceTree.Config.Layers
import ResourceTree.Config.Setting
import ResourceTree.Realtime.Replay
import ResourceTree.Server
import ResourceTree.SnapshotFile

/-!
# Running a command

What a command prints, why it fails, or which file it writes, from the variables of the environment
and from what is found at paths. There is no connection to a server: a command that needs one
checks the address and reports that its request failed.
-/

namespace ResourceTree
set_option autoImplicit false

/-- What a command comes to. -/
inductive Effect where
  | print (text : String)
  | fail (f : Failure)
  /-- Writes the configuration file. -/
  | save (path text : String)
  deriving DecidableEq, Repr

/-- What a run of the program leaves behind for the user. -/
structure Report where
  code : Nat
  output : String := ""
  problem : String := ""
  deriving DecidableEq, Repr

namespace Command

/-- The store with the snapshot at a path in it. -/
def storeOf (c : Config) (find : String → Place) (path : String) : Except Failure Store :=
  (Snapshot.load path (find path)).map c.store.replaceTree

def summaryText (c : Config) (find : String → Place) (snapshot : String) (events : Option String) :
    Except Failure String := do
  let store ← storeOf c find snapshot
  let log ← match events with
    | some path => c.eventLog.loadFile path (find path)
    | none => pure c.eventLog
  return (Summary.ofStore store log).2

def layoutText (c : Config) (find : String → Place) (snapshot : String) (root : Option String)
    (direction : Option Direction) : Except Failure String := do
  let store ← storeOf c find snapshot
  let options := { c.layoutOptions with direction := direction.getD c.layout.direction }
  let scheduler : Scheduler Float := .idle c.layout.excludedKinds options
  let root := root.getD ""
  match scheduler.layoutNow? store root with
  | some l => return Summary.ofLayout l
  | none => throw { message := notFoundMessage root }

/-- The lines of a replay, numbered. -/
def numbered (lines : List String) : List String :=
  lines.zipIdx.map fun (line, i) => Summary.padLeft 4 (toString (i + 1)) ++ ": " ++ line

def replayText (c : Config) (find : String → Place) (messages : String)
    (snapshot : Option String) : Except Failure String := do
  let store ← match snapshot with
    | some path => storeOf c find path
    | none => pure c.store
  let text ← (find messages).text.mapError (·.within ("Failed to read messages: " ++ messages))
  let (router, lines) := (Router.start store c.eventLog).replay text
  return Summary.unlines (numbered lines) ++ "\n" ++ (Summary.ofStore router.store router.events).2

/-- The failure of a request that reaches no server. -/
def unreached (u : Url) : Failure :=
  let address := u.toText
  let cause :=
    if u.scheme = "http" ∨ u.scheme = "https" then
      ["error sending request for url (" ++ address ++ ")"]
    else ["builder error for url (" ++ address ++ ")", "URL scheme is not allowed"]
  { message := "Failed to fetch from: " ++ address, causes := cause }

/-- What a command prints that asks the server for the tree. -/
def fetchText (c : Config) : Except Failure String := do
  let server ← Server.ofAddress c.apiUrl
  let (store, _) ← c.store.loadTree (.error (unreached server.tree))
  let (log, _) ← c.eventLog.load (.error (unreached server.events))
  return (Summary.ofStore store log).2

def describeText (c : Config) (uid : String) : Except Failure String := do
  let server ← Server.ofAddress c.apiUrl
  ResourceTree.describe uid (.error (unreached (server.resource uid "describe")))

def actionText (c : Config) (action : Action) (uid : String) : Except Failure String := do
  let server ← Server.ofAddress c.apiUrl
  let (store, _) ← c.store.loadTree (.error (unreached server.tree))
  match (store.runAction action uid (some (.transport "no connection"))).2 with
  | some e => throw { message := "Failed to " ++ action.name ++ " " ++ uid, causes := [e.message] }
  | none => return "Requested " ++ action.name ++ " for " ++ uid ++ "\n"

/-- A text that is printed, or the failure that there is instead. -/
def printed (x : Except Failure String) : Effect :=
  match x with
  | .ok text => .print text
  | .error f => .fail f

/-- The configuration, where nothing can be done without it. -/
def neededConfig (env : Environment) (find : String → Place) (problem : String) :
    Except Failure Config :=
  (Config.load env (find env.configPath)).mapError (·.within problem)

/-- The configuration file after a change of one setting. -/
def changed (env : Environment) (find : String → Place) (key value : String) :
    Except Failure String :=
  ((((Config.loadOrDefaults env (find env.configPath)).set key value).map Config.toText).mapError
    (·.within ("Failed to set " ++ key ++ " = " ++ value)))

/-- What a command on the configuration comes to. -/
def runConfig (env : Environment) (find : String → Place) : ConfigCommand → Effect
  | .get none | .list =>
    printed ((neededConfig env find "Failed to load configuration").map Config.toText)
  | .get (some key) => printed do
    let c ← neededConfig env find "Failed to load configuration"
    return (← c.get key) ++ "\n"
  | .set key value => match changed env find key value with
    | .ok text => .save env.configPath text
    | .error f => .fail f
  | .path => .print (env.configPath ++ "\n")
  | .validate =>
    printed ((neededConfig env find "Configuration validation failed").map fun _ =>
      "Configuration is valid\n")

/-- What a command comes to. -/
def run (env : Environment) (find : String → Place) (command : Command) : Effect :=
  let c := Config.loadOrDefaults env (find env.configPath)
  match command with
  | .summary snapshot events => printed (summaryText c find snapshot events)
  | .layout snapshot root direction => printed (layoutText c find snapshot root direction)
  | .replay messages snapshot => printed (replayText c find messages snapshot)
  | .fetch => printed (fetchText c)
  | .describe uid => printed (describeText c uid)
  | .action a uid => printed (actionText c a uid)
  | .config command => runConfig env find command

/-- The paths that a command reads. -/
def paths (env : Environment) (command : Command) : List String :=
  env.configPath :: match command with
    | .summary snapshot events => snapshot :: events.toList
    | .layout snapshot _ _ => [snapshot]
    | .replay messages snapshot => messages :: snapshot.toList
    | _ => []

end Command

namespace Report

def ofFailure (f : Failure) : Report := { code := 1, problem := f.report }

/-- The report on a file that was to be written. -/
def ofSave (path : String) : Except WriteFault Unit → Report
  | .ok _ => { code := 0, output := "Configuration saved\n" }
  | .error (.directory fault) =>
    ofFailure { message := "Failed to save configuration", causes := [fault.message] }
  | .error (.file fault) =>
    ofFailure
      { message := "Failed to save configuration"
        causes := ["Failed to write config file: " ++ path, fault.message] }

/-- The report on words that do not fit. -/
def ofMisuse (usage : String) : Report := { code := 2, problem := usage ++ "\n" }

end Report

/-- What an effect leaves behind, in a directory of files. -/
def Effect.apply (files : Files) : Effect → Report × Files
  | .print text => ({ code := 0, output := text }, files)
  | .fail f => (.ofFailure f, files)
  | .save path text => match files.write path text with
    | .ok files => (.ofSave path (.ok ()), files)
    | .error f => (.ofSave path (.error f), files)

/-- A run of the program in a directory of files. -/
def Request.apply (env : Environment) (files : Files) : Request → Report × Files
  | .help text => ({ code := 0, output := text }, files)
  | .misuse usage => (.ofMisuse usage, files)
  | .run _ c => (c.run env files.find).apply files

end ResourceTree
