/-!
# What can be typed after a command

A command takes operands in order and options with a value. A word that begins with a hyphen is an
option, unless two hyphens came before it. A call for help is answered if all words before it fit.
-/

namespace ResourceTree.Command
set_option autoImplicit false

/-- A word that a command takes. -/
structure Operand where
  name : String
  about : String := ""
  isOptional : Bool := false
  /-- More than one word may be given. -/
  isRepeated : Bool := false
  /-- The words that fit. -/
  accepts : String → Bool := fun _ => true

/-- A value that is given by name. -/
structure Parameter where
  name : String
  about : String := ""
  /-- The values that fit. -/
  accepts : String → Bool := fun _ => true

structure Usage where
  /-- The words that lead to the command. -/
  words : List String
  about : String
  operands : List Operand := []
  parameters : List Parameter := []
  /-- The commands of a group, one of which must follow. -/
  commands : List (String × String) := []
  /-- Flags of a group, by their letter, name and meaning. -/
  flags : List (Char × String × String) := []
  /-- The command describes itself when help is called for. -/
  hasHelp : Bool := true

/-- The words that were given to a command. -/
structure Given where
  operands : List String := []
  values : List (String × String) := []
  deriving DecidableEq, Repr

def Given.value? (g : Given) (name : String) : Option String :=
  (g.values.find? (·.1 = name)).map (·.2)

/-- What the words after a command ask for. -/
inductive Asked where
  | help
  | given (g : Given)
  /-- The words do not fit. -/
  | misuse
  deriving DecidableEq, Repr

/-- The word is an option and not a value. -/
def isOption (word : String) : Bool := word.toList.head? = some '-' && word ≠ "-"

/-- The word calls for help; what follows the letter is not looked at. -/
def isHelp (word : String) : Bool := word = "--help" || ['-', 'h'].isPrefixOf word.toList

/-- The name and the value of an option in one word. -/
def splitOption (word : String) : String × Option String :=
  let name := word.toList.takeWhile (· ≠ '=')
  (String.ofList name, (word.toList.drop name.length).tail?.map String.ofList)

namespace Usage

/-- An operand, if one more is taken and the word fits. -/
def takeOperand (u : Usage) (g : Given) (word : String) : Option Given :=
  if (u.operands[g.operands.length]?).any (·.accepts word) then
    some { g with operands := g.operands ++ [word] }
  else none

/-- The value of an option that has none yet, if it fits. -/
def takeValue (u : Usage) (g : Given) (name value : String) : Option Given :=
  if (u.parameters.find? (·.name = name)).any (·.accepts value) ∧ (g.value? name).isNone then
    some { g with values := g.values ++ [(name, value)] }
  else none

/-- All operands that are needed have been given. -/
def finish (u : Usage) (g : Given) : Asked :=
  if (u.operands.filter (!·.isOptional)).length ≤ g.operands.length then .given g else .misuse

/-- Goes through the words. -/
def scan (u : Usage) (g : Given) : List String → Asked
  | [] => u.finish g
  | word :: rest =>
    if word = "--" then
      match rest.foldlM u.takeOperand g with
      | some g => u.finish g
      | none => .misuse
    else if isHelp word then .help
    else if isOption word then
      match splitOption word, rest with
      | (name, some value), rest => match u.takeValue g name value with
        | some g => scan u g rest
        | none => .misuse
      | (name, none), value :: rest =>
        if isOption value then .misuse
        else match u.takeValue g name value with
          | some g => scan u g rest
          | none => .misuse
      | (_, none), [] => .misuse
    else match u.takeOperand g word with
      | some g => scan u g rest
      | none => .misuse
termination_by words => words.length

/-- Two columns, the first filled up with spaces. -/
def columns (rows : List (String × String)) : String :=
  let width := (rows.map (·.1.length)).foldl max 0
  String.join (rows.map fun (left, right) =>
    let blank := String.ofList (List.replicate (width - left.length) ' ')
    "  " ++ left ++ blank ++ "  " ++ right ++ "\n")

/-- A titled part of a description, left out when it is empty. -/
def part (title : String) (rows : List (String × String)) : String :=
  if rows.isEmpty then "" else "\n" ++ title ++ ":\n" ++ columns rows

def Operand.text (o : Operand) : String :=
  (if o.isOptional then "[" ++ o.name ++ "]" else "<" ++ o.name ++ ">")
    ++ if o.isRepeated then "..." else ""

/-- The name of a parameter's value. -/
def Parameter.valueName (p : Parameter) : String := (p.name.drop 2).toString.toUpper

/-- The options, help the last of them. -/
def options (u : Usage) : List (String × String) :=
  (u.flags.map fun (letter, name, about) => ("-" ++ letter.toString ++ ", --" ++ name, about))
    ++ (u.parameters.map fun p =>
      ("    " ++ p.name ++ " <" ++ Parameter.valueName p ++ ">", p.about))
    ++ if u.hasHelp then [("-h, --help", "Print help")] else []

/-- The shortest description. -/
def line (u : Usage) : String :=
  "Usage: " ++ " ".intercalate (u.words
    ++ (if u.flags.isEmpty ∧ u.parameters.isEmpty then [] else ["[OPTIONS]"])
    ++ u.operands.map Operand.text
    ++ if u.commands.isEmpty then [] else ["<COMMAND>"])

/-- The description of a command. -/
def help (u : Usage) : String :=
  u.about ++ "\n\n" ++ u.line ++ "\n"
    ++ part "Commands" u.commands
    ++ part "Arguments" (u.operands.map fun o => (Operand.text o, o.about))
    ++ part "Options" u.options

end Usage

end ResourceTree.Command
