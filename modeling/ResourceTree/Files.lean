import ResourceTree.Failure
import ResourceTree.Files.Path

/-!
# Files by their paths

What is found at a path, and what becomes of the files of a directory when a text is written to
one of them. A path is followed name by name, and every name but the last must be that of a
directory.
-/

namespace ResourceTree
set_option autoImplicit false

open Files (PathFault)

/-- What is at a path. -/
inductive Place where
  | file (text : String)
  /-- Something is there that cannot be read. -/
  | unreadable (fault : PathFault)
  | nothing (fault : PathFault)
  deriving DecidableEq, Repr

namespace Place

def isThere : Place → Bool
  | nothing _ => false
  | _ => true

/-- The text at a path, or why there is none. -/
def text : Place → Except Failure String
  | file text => .ok text
  | unreadable fault | nothing fault => .error { message := fault.message }

end Place

/-- Why a text could not be written. -/
inductive WriteFault where
  /-- The directory could not be made. -/
  | directory (fault : PathFault)
  | file (fault : PathFault)
  deriving DecidableEq, Repr

/-- The names that lead from the directory of the files to a place: first the steps out of it, then
the names of what they lead to. Absolute ways begin with a solidus. -/
abbrev Way := List String

namespace Way

/-- Where a path starts. -/
def start (path : String) : Way := if Files.Path.isAbsolute path then ["/"] else []

/-- The place is a directory whatever the files are. -/
def isTop (w : Way) : Bool := w = ["/"] || w.all (· = "..")

/-- The directory above. -/
def up (w : Way) : Way :=
  if w = ["/"] then w else if w.isTop then w ++ [".."] else w.dropLast

end Way

/-- Texts by the ways to them, and directories without any. Nothing else is known to be there. -/
structure Files where
  texts : List (Way × String) := []
  /-- What is on the way to a directory is one as well. -/
  directories : List Way := []
  deriving DecidableEq, Repr

namespace Files

/-- The files of a directory, by their paths. -/
def ofList (texts : List (String × String)) : Files :=
  { texts := texts.map fun (path, text) => ((Path.names path).filter (· ≠ "."), text) }

def text? (files : Files) (w : Way) : Option String :=
  (files.texts.find? (·.1 = w)).map (·.2)

def isDirectory (files : Files) (w : Way) : Bool :=
  w.isTop || files.directories.any w.isPrefixOf
    || files.texts.any fun (other, _) => w.isPrefixOf other && w ≠ other

def holds (files : Files) (w : Way) : Bool := (files.text? w).isSome || files.isDirectory w

/-- Where a name leads from a place. -/
def enter (files : Files) (w : Way) (name : String) : Except PathFault Way :=
  if !files.isDirectory w then .error .notDirectory
  else if name = "." then .ok w
  else if name = ".." then .ok w.up
  else if Path.maxNameBytes < name.utf8ByteSize then .error .nameTooLong
  else if files.holds (w ++ [name]) then .ok (w ++ [name])
  else .error .notFound

/-- Where a path leads. -/
def locate (files : Files) (path : String) : Except PathFault Way := do
  if Path.maxBytes < path.utf8ByteSize then throw .nameTooLong
  if path = "" then throw .notFound
  let w ← (Path.names path).foldlM files.enter (.start path)
  if Path.endsInSolidus path ∧ !files.isDirectory w then throw .notDirectory
  return w

/-- What is at a path. -/
def find (files : Files) (path : String) : Place :=
  match files.locate path with
  | .error fault => .nothing fault
  | .ok w => match files.text? w with
    | some text => .file text
    | none => .unreadable .isDirectory

/-- The files with one more directory. -/
def addDirectory (files : Files) (w : Way) : Files :=
  { files with directories := w :: files.directories.filter (!·.isPrefixOf w) }

/-- The files with a text in place of what was there. -/
def put (files : Files) (w : Way) (text : String) : Files :=
  { files with texts := files.texts.filter (·.1 ≠ w) ++ [(w, text)] }

/-- Enters a directory that is made if it is missing. -/
def enterNew (s : Files × Way) (name : String) : Except PathFault (Files × Way) :=
  match s.1.enter s.2 name with
  | .ok w => if s.1.isDirectory w then .ok (s.1, w) else .error .fileExists
  | .error .notFound => .ok (s.1.addDirectory (s.2 ++ [name]), s.2 ++ [name])
  | .error fault => .error fault

/-- Makes the directory that a path leads to, and those on the way to it. Nothing is made if the
path leads through a file. -/
def makeDirectories (files : Files) (path : String) : Except PathFault Files :=
  match files.locate path with
  | .ok w => if files.isDirectory w then .ok files else .error .fileExists
  | .error .notFound => ((Path.names path).foldlM enterNew (files, .start path)).map (·.1)
  | .error fault => .error fault

/-- Writes a text to the last name of a path, in a directory that is there. -/
def writeFile (files : Files) (path text : String) : Except PathFault Files := do
  if Path.maxBytes < path.utf8ByteSize then throw .nameTooLong
  let names := Path.names path
  let w ← names.dropLast.foldlM files.enter (.start path)
  match names.getLast? with
  | none => throw (if path = "" then .notFound else .isDirectory)
  | some name =>
    if Path.endsInSolidus path ∧ files.isDirectory w then throw .isDirectory
    match files.enter w name with
    | .ok w => if files.isDirectory w then throw .isDirectory else return files.put w text
    | .error .notFound => return files.put (w ++ [name]) text
    | .error fault => throw fault

/-- Writes a text to a path; the directories on the way are made. -/
def write (files : Files) (path text : String) : Except WriteFault Files := do
  let files ← (files.makeDirectories (Path.parent path)).mapError .directory
  (files.writeFile path text).mapError .file

end Files

end ResourceTree
