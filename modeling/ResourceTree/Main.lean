import ResourceTree.Command.Run

/-!
# The command line

Reads the variables and the files that a command needs, runs it, and prints what it comes to.
-/

namespace ResourceTree
set_option autoImplicit false

open Files (PathFault)

/-- The fault with a number of the system, which may come with its sign turned. -/
def faultOfCode (code : UInt32) (details : String) : PathFault :=
  .ofNumber (if code < 0x80000000 then code else 0 - code).toNat details

/-- The fault that an error of the file system tells of. -/
def faultOf : IO.Error → PathFault
  | .noFileOrDirectory _ code details | .inappropriateType _ code details
  | .permissionDenied _ code details | .alreadyExists _ code details
  | .invalidArgument _ code details | .resourceExhausted _ code details =>
    faultOfCode code details
  | .otherError code details | .resourceBusy code details | .illegalOperation code details =>
    faultOfCode code details
  | e => .other 0 (toString e)

/-- What is at a path of the file system. -/
def placeOf (path : String) : IO Place := do
  try
    let bytes ← IO.FS.readBinFile path
    match String.fromUTF8? bytes with
    | some text => return .file text
    | none => return .unreadable .notText
  catch e =>
    let fault := faultOf e
    return if fault = .notFound ∨ fault = .notDirectory ∨ fault = .nameTooLong then .nothing fault
      else .unreadable fault

/-- Makes a directory and those on the way to it. The first try tells why it cannot be made. -/
def makeDirectories (path : String) : IO Unit := do
  if path = "" then return
  try IO.FS.createDir path
  catch e =>
    try IO.FS.createDirAll path
    catch other => throw (if faultOf e = .notFound then other else e)

/-- Writes a text to a path; the directories on the way are made. -/
def writeText (path text : String) : IO (Except WriteFault Unit) := do
  try makeDirectories (Files.Path.parent path)
  catch e => return .error (.directory (faultOf e))
  try
    IO.FS.writeFile path text
    return .ok ()
  catch e => return .error (.file (faultOf e))

/-- The variables of the environment that are looked at. -/
def variableNames : List String :=
  ["FLUXTREE_CONFIG", "FLUXTREE_CONFIG_DIR", "FLUXTREE_API_URL", "FLUXTREE_FLUX_NAMESPACE",
    "FLUXTREE_LAYOUT_DIRECTION", "XDG_CONFIG_HOME", "HOME"]

/-- The environment as it is now. -/
def currentEnvironment : IO Environment := do
  let values ← variableNames.mapM fun name => return (name, ← IO.getEnv name)
  return fun name => (values.find? (·.1 = name)).bind (·.2)

/-- The report of a request, after its files have been read and written. -/
def reportOf (r : Request) : IO Report := do
  match r with
  | .help text => return { code := 0, output := text }
  | .misuse usage => return .ofMisuse usage
  | .run _ c =>
    let env ← currentEnvironment
    let places ← (c.paths env).mapM fun path => return (path, ← placeOf path)
    let find (path : String) : Place :=
      ((places.find? (·.1 = path)).map (·.2)).getD (.nothing .notFound)
    match c.run env find with
    | .print text => return { code := 0, output := text }
    | .fail f => return .ofFailure f
    | .save path text => return .ofSave path (← writeText path text)

end ResourceTree

def main (words : List String) : IO UInt32 := do
  let report ← ResourceTree.reportOf (ResourceTree.Request.ofWords words)
  IO.print report.output
  IO.eprint report.problem
  return report.code.toUInt32
