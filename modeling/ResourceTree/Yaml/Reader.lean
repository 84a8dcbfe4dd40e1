import ResourceTree.Yaml.Node

/-!
# Reading nodes by shape

A reader takes a node for a value of one type or names the fault. Faults are raised in the order
of the text. A text is taken from any scalar; numbers only from plain ones. A record starts from
its defaults and takes its members one by one, whatever their order.
-/

namespace ResourceTree.Yaml
set_option autoImplicit false

/-- Takes a node for an `α`, given the nodes that aliases stand for. -/
abbrev Reader (α : Type) := Anchored → Node → Except Fault α

/-- A fault at the place of the reader. -/
def Misfit.fault (m : Misfit) : Fault := .misfit [] m

namespace Reader

variable {α : Type}

/-- A reader that looks at the node that is meant. -/
def ofNode (read : Anchored → Node → Except Fault α) : Reader α := fun a n => read a (a.resolve n)

def boolTag : Tag := .ofText "tag:yaml.org,2002:bool"

def intTag : Tag := .ofText "tag:yaml.org,2002:int"

def floatTag : Tag := .ofText "tag:yaml.org,2002:float"

def nullTag : Tag := .ofText "tag:yaml.org,2002:null"

/-- A scalar with a tag of a common type must be of that type. -/
def foundTagged (tag : Tag) (s : String) (style : Style) (expected : String) : Misfit :=
  let wanted (what : String) : Misfit := .wrongValue (.text s) what
  let asInt : Option Found := match Scalar.resolve s with
    | .whole n => some (.whole n)
    | .wide n => some (.wide n)
    | _ => none
  if tag = boolTag then match Scalar.bool? s with
    | some b => .wrongType (.bool b) expected
    | none => wanted "a boolean"
  else if tag = intTag then match asInt with
    | some n => .wrongType n expected
    | none => wanted "an integer"
  else if tag = floatTag then match Scalar.double? s with
    | some x => .wrongType (.double x) expected
    | none => wanted "a float"
  else if tag = nullTag then
    if Scalar.isNull s then .wrongType .null expected else wanted "null"
  else if tag.isOwn && style = .plain then .wrongType (Scalar.resolve s) expected
  else .wrongType (.text s) expected

/-- The fault of a node that is not what a reader expects. -/
def unexpected (expected : String) : Node → Fault
  | .scalar none .plain s => (Misfit.wrongType (Scalar.resolve s) expected).fault
  | .scalar none _ s => (Misfit.wrongType (.text s) expected).fault
  | .scalar (some tag) style s => (foundTagged tag s style expected).fault
  | .sequence _ _ _ => (Misfit.wrongType .sequence expected).fault
  | .mapping _ _ _ => (Misfit.wrongType .mapping expected).fault
  | .standIn _ => (Misfit.wrongType .null expected).fault
  | .broken b => .broken b

def text : Reader String := ofNode fun _ n =>
  match n with
  | .scalar _ _ s => .ok s
  | n => .error (unexpected "a string" n)

/-- The text of a scalar that may stand for a value of a type: a plain one, or a literal with the
tag of the type. -/
def typed? (typeTag : Tag) : Node → Option String
  | .scalar _ .plain s => some s
  | .scalar tag .literal s => if tag = some typeTag then some s else none
  | _ => none

/-- A natural number of the given number of bits, of sixty-four at most. -/
def natural (name : String) (bits : Nat) : Reader Nat := ofNode fun _ n =>
  match (typed? intTag n).bind fun s => Scalar.natural? (Nat.pow 2 64) s.toList with
  | some k =>
    if k < Nat.pow 2 bits then .ok k else .error (Misfit.wrongValue (.whole k) name).fault
  | none => .error (unexpected name n)

def double : Reader Float := ofNode fun _ n =>
  match (typed? floatTag n).bind Scalar.double? with
  | some x => .ok x
  | none => .error (unexpected "f64" n)

/-- The value of a word; `misfit` is the fault of any other. -/
def wordValue (words : List (String × α)) (misfit : Misfit → Fault) (word : String) :
    Except Fault α :=
  match words.find? (·.1 = word) with
  | some w => .ok w.2
  | none => .error (misfit (.unknownVariant word (words.map (·.1))))

/-- What must stand behind a tag that is the word itself: nothing. -/
def bare : Node → Except Fault Unit
  | .scalar _ style s =>
    if style = .plain && (s = "" || Scalar.isNull s) then .ok ()
    else .error (Misfit.wrongValue (.text s) "null").fault
  | n => .error (unexpected "unit" n)

/-- The tag of a node, if it names something. -/
def ownName? : Node → Option String
  | .scalar tag _ _ | .sequence tag _ _ | .mapping tag _ _ => tag.bind Tag.ownName?
  | _ => none

/-- One of a few words. A word may also be the tag of a null. -/
def choice (words : List (String × α)) : Reader α := ofNode fun _ n =>
  match ownName? n, n with
  | some name, n => do
    let a ← wordValue words .outerMisfit name
    bare n
    return a
  | none, .scalar _ _ s => wordValue words Misfit.fault s
  | none, n => .error (unexpected "a YAML tag starting with '!'" n)

/-- The fault of a collection that breaks off. -/
def ending : Option Break → Except Fault Unit
  | some b => .error (.broken b)
  | none => .ok ()

def items (r : Node → Except Fault α) (e : Option Break) :
    Nat → List Node → Except Fault (List α)
  | _, [] => (fun _ => []) <$> ending e
  | i, n :: rest => do
    let a ← (r n).mapError (·.within (.item i))
    let as ← items r e (i + 1) rest
    return a :: as

/-- A list; nothing at all is an empty one. -/
def list (r : Reader α) : Reader (List α) := ofNode fun a n =>
  match n with
  | .sequence _ ns e => items (r a) e 0 ns
  | .scalar tag style s =>
    if style = .plain && s = "" then .ok []
    else .error (unexpected "a sequence" (.scalar tag style s))
  | n => .error (unexpected "a sequence" n)

/-- A key as a text. -/
def key : Reader String := ofNode fun _ n =>
  match n with
  | .scalar _ _ s => .ok s
  | n => .error (unexpected "field identifier" n)

/-- The step to the value of a key. -/
def partOf : Node → Part
  | .scalar _ _ s => .member s
  | _ => .unnamed

mutual

/-- Passes over a node. -/
def skip : Node → Except Fault Unit
  | .sequence _ ns e => skipAll ns e
  | .mapping _ ms e => skipMembers ms e
  | .broken b => .error (.broken b)
  | .scalar _ _ _ | .standIn _ => .ok ()

def skipAll : List Node → Option Break → Except Fault Unit
  | [], e => ending e
  | n :: rest, e => do
    skip n
    skipAll rest e

def skipMembers : List (Node × Node) → Option Break → Except Fault Unit
  | [], e => ending e
  | (k, v) :: rest, e => do
    skip k
    skip v
    skipMembers rest e

end

/-- Members taken into a record; `seen` are the fields met before. -/
def members (anchored : Anchored) (field : String → α → Option (Reader α)) (e : Option Break)
    (seen : List String) (a : α) : List (Node × Node) → Except Fault α
  | [] => (fun _ => a) <$> ending e
  | (k, v) :: rest => do
    let name ← key anchored k
    match field name a with
    | none => do
      skip v
      members anchored field e seen a rest
    | some r =>
      if seen.contains name then .error (Misfit.duplicateField name).fault
      else do
        let a ← (r anchored v).mapError (·.within (partOf k))
        members anchored field e (name :: seen) a rest

/-- A record: `field` gives, for the name of a field and the record so far, the reader of the
record with that field; nothing at all is a record of defaults. -/
def record (title : String) (field : String → α → Option (Reader α)) (start : α) : Reader α :=
  ofNode fun anchored n => match n with
  | .mapping _ ms e => members anchored field e [] start ms
  | .scalar tag style s =>
    if style = .plain && s = "" then .ok start
    else .error (unexpected ("struct " ++ title) (.scalar tag style s))
  | n => .error (unexpected ("struct " ++ title) n)

/-- A field of a record, by how it is put there. -/
def put {β : Type} (r : Reader β) (set : β → α) : Reader α := fun a n => set <$> r a n

/-- Reads a text that holds one document. -/
def ofText (r : Reader α) (s : String) : Except Fault α := do
  let d := Document.ofText s
  let a ← r d.anchored d.root
  ending d.ending
  if d.surplus then .error (.broken { problem := .secondDocument }) else return a

end Reader

end ResourceTree.Yaml
