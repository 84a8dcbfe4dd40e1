import ResourceTree.Text.Blank

/-!
# Paths

How a path is taken apart into names, and why a path may lead to nothing.
-/

namespace ResourceTree.Files
set_option autoImplicit false

/-- Why nothing can be read or written at a path. -/
inductive PathFault where
  | notFound
  | permissionDenied
  | fileExists
  | notDirectory
  | isDirectory
  | nameTooLong
  /-- What is there is not encoded as text. -/
  | notText
  /-- Another fault, by its number. -/
  | other (number : Nat) (details : String)
  deriving DecidableEq, Repr

namespace PathFault

def numbered (number : Nat) (details : String) : String :=
  details ++ " (os error " ++ toString number ++ ")"

def message : PathFault → String
  | notFound => numbered 2 "No such file or directory"
  | permissionDenied => numbered 13 "Permission denied"
  | fileExists => numbered 17 "File exists"
  | notDirectory => numbered 20 "Not a directory"
  | isDirectory => numbered 21 "Is a directory"
  | nameTooLong => numbered 36 "File name too long"
  | notText => "stream did not contain valid UTF-8"
  | other number details => numbered number details

/-- The fault with a number. -/
def ofNumber (number : Nat) (details : String) : PathFault :=
  match number with
  | 2 => notFound
  | 13 => permissionDenied
  | 17 => fileExists
  | 20 => notDirectory
  | 21 => isDirectory
  | 36 => nameTooLong
  | number => other number details

end PathFault

namespace Path

/-- A name has at most this many bytes. -/
def maxNameBytes : Nat := 255

/-- A path has at most this many bytes. -/
def maxBytes : Nat := 4095

/-- What stands between the solidi of a path. -/
def parts (path : String) : List String :=
  (Text.splitOn (· = '/') path.toList).map String.ofList

/-- The names that a path leads through, those of the same and of the upper directory among
them. -/
def names (path : String) : List String := (parts path).filter (· ≠ "")

/-- The path does not start from the directory of the files. -/
def isAbsolute (path : String) : Bool := path.toList.head? = some '/'

/-- Only a directory can be meant. -/
def endsInSolidus (path : String) : Bool := path.toList.getLast? = some '/'

/-- The part leads nowhere else. -/
def isIdle (part : String) : Bool := part = "" || part = "."

/-- The path to the directory in which the last name of a path stands, empty if the path is no more
than the name. -/
def parent (path : String) : String :=
  let above := ((parts path).reverse.dropWhile isIdle).drop 1
  "/".intercalate (above.dropWhile isIdle).reverse

end Path

end ResourceTree.Files
