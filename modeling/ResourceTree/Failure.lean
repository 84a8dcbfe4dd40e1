/-!
# Failures with their causes

What went wrong as the user is told it: the outermost statement first, then what caused it.
-/

namespace ResourceTree
set_option autoImplicit false

structure Failure where
  message : String
  causes : List String := []
  deriving DecidableEq, Repr

namespace Failure

/-- A failure seen from further out. -/
def within (context : String) (f : Failure) : Failure :=
  { message := context, causes := f.message :: f.causes }

/-- Statement and causes on one line. -/
def line (f : Failure) : String := ": ".intercalate (f.message :: f.causes)

/-- Every line of a text but the first moved in by some spaces. -/
def indentLines (spaces : Nat) (s : String) : String :=
  String.ofList (s.toList.flatMap fun c =>
    if c = '\n' then '\n' :: List.replicate spaces ' ' else [c])

/-- A number filled up to five places. -/
def numbered (n : Nat) (cause : String) : String :=
  let digits := toString n
  String.ofList (List.replicate (5 - digits.length) ' ') ++ digits ++ ": " ++ indentLines 7 cause

/-- The report at the end of a failed run: several causes are numbered. -/
def report (f : Failure) : String :=
  "Error: " ++ f.message
    ++ (match f.causes with
      | [] => ""
      | [cause] => "\n\nCaused by:\n    " ++ indentLines 4 cause
      | causes => "\n\nCaused by:"
        ++ String.join (causes.zipIdx.map fun (cause, i) => "\n" ++ numbered i cause))
    ++ "\n"

end Failure

end ResourceTree
