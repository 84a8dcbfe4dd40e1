import ResourceTree.Config.Document
import ResourceTree.Files

/-!
# Where the configuration comes from

Defaults, over them the configuration file if there is one, and over both the variables of the
environment.
-/

namespace ResourceTree
set_option autoImplicit false

/-- The variables of the environment. -/
abbrev Environment := String → Option String

namespace Environment

/-- A variable that is set to something. -/
def nonEmpty? (env : Environment) (name : String) : Option String :=
  (env name).filter (· ≠ "")

/-- A path below another one. -/
def joined (directory name : String) : String :=
  if directory.toList.getLast? = some '/' then directory ++ name else directory ++ "/" ++ name

/-- The directory of the user for configuration files. -/
def userDirectory (env : Environment) : String :=
  match (env "XDG_CONFIG_HOME").filter (·.toList.head? = some '/'), env.nonEmpty? "HOME" with
  | some directory, _ => joined directory "fluxtree"
  | none, some home => joined (joined home ".config") "fluxtree"
  | none, none => ".fluxtree"

/-- The configuration file: the one that is named, or the one in the directory that is named, or
the one of the user. -/
def configPath (env : Environment) : String :=
  (env.nonEmpty? "FLUXTREE_CONFIG").getD
    (joined ((env.nonEmpty? "FLUXTREE_CONFIG_DIR").getD env.userDirectory) "config.yaml")

end Environment

namespace Config

/-- The settings of a file with a text. -/
def ofFile (path text : String) : Except Failure Config :=
  (ofText text).mapError fun f =>
    { message := "Failed to parse config file: " ++ path, causes := [f.message] }

/-- The settings that a path leads to, the defaults if there is nothing. -/
def ofPlace (path : String) (place : Place) : Except Failure Config :=
  if place.isThere then do
    let text ← place.text.mapError (·.within ("Failed to read config file: " ++ path))
    ofFile path text
  else .ok {}

/-- The settings with those that variables override; a word that is no direction is passed over. -/
def override (env : Environment) (c : Config) : Config :=
  { c with
    apiUrl := (env "FLUXTREE_API_URL").getD c.apiUrl
    fluxNamespace := (env "FLUXTREE_FLUX_NAMESPACE").getD c.fluxNamespace
    layout := { c.layout with
      direction := ((env "FLUXTREE_LAYOUT_DIRECTION").bind Direction.ofWord?).getD
        c.layout.direction } }

/-- The settings of all layers, from the configuration file and the variables. -/
def load (env : Environment) (place : Place) : Except Failure Config :=
  (ofPlace env.configPath place).map (override env)

/-- The settings of all layers; a file that cannot be used leaves the defaults. -/
def loadOrDefaults (env : Environment) (place : Place) : Config :=
  match load env place with
  | .ok c => c
  | .error _ => {}

end Config

end ResourceTree
