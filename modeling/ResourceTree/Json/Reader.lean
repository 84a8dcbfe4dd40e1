import ResourceTree.Json.Document

/-!
# Reading documents by shape

A reader takes a document for a value of one type or names the fault. Faults are raised in the
order of the document: a record visits its members as they come, and asks for missing fields last.
So every field's result carries the place where it was decided, and of several faults the
earliest counts.
-/

namespace ResourceTree.Json
set_option autoImplicit false

/-- Takes a document for an `α`. -/
abbrev Reader (α : Type) := Document → Except Fault α

namespace Reader

variable {α β : Type}

/-- The fault of a document that is not what a reader expects. -/
def unexpected (expected : String) : Document → Fault
  | .null => .wrongType .null expected
  | .bool b => .wrongType (.bool b) expected
  | .number (.ok n) => .wrongType (.number n) expected
  | .number (.error f) => f
  | .text (.ok s) => .wrongType (.text s) expected
  | .text (.error f) => f
  | .array _ _ _ => .wrongType .array expected
  | .object _ _ _ => .wrongType .object expected
  | .broken b => b.read

def text : Reader String
  | .text (.ok s) => .ok s
  | d => .error (unexpected "a string" d)

def flag : Reader Bool
  | .bool b => .ok b
  | d => .error (unexpected "a boolean" d)

/-- A whole number between bounds; `name` is what the range is called. -/
def whole (name : String) (low high : Int) : Reader Int
  | .number (.ok (.whole n)) =>
    if low ≤ n && n ≤ high then .ok n else .error (.wrongValue (.number (.whole n)) name)
  | d => .error (unexpected name d)

/-- A natural number of the given number of bits. -/
def natural (name : String) (bits : Nat) : Reader Nat := fun d =>
  Int.toNat <$> whole name 0 (Nat.pow 2 bits - 1) d

/-- A signed number of thirty-two bits. -/
def int32 : Reader Int := whole "i32" (-2147483648) 2147483647

/-- A double; whole numbers are rounded to the nearest one. -/
def double : Reader Float
  | .number (.ok (.whole n)) => .ok (Number.nearest (n < 0) n.natAbs 1)
  | .number (.ok (.double x)) => .ok x
  | d => .error (unexpected "f64" d)

/-- One of a few words; an object whose only member is a word with null stands for the word. -/
def choice (words : List (String × α)) : Reader α
  | .text (.ok s) =>
    match words.find? (·.1 = s) with
    | some w => .ok w.2
    | none => .error (.unknownVariant s (words.map (·.1)))
  | .object _ [(.ok key, d)] _ =>
    match words.find? (·.1 = key), d with
    | none, _ => .error (.unknownVariant key (words.map (·.1)))
    | some w, .null => .ok w.2
    | some _, d => .error (unexpected "unit" d)
  | .object _ _ _ => .error (.wrongValue .object "map with a single key")
  | d => .error (unexpected "string or map" d)

/-- Null, or what another reader takes. -/
def optional (r : Reader α) : Reader (Option α)
  | .null => .ok none
  | d => some <$> r d

/-- The fault of an ending that breaks off. -/
def ending : Ending → Except Fault Unit
  | .broken b => .error b.read
  | _ => .ok ()

def items (r : Reader α) (e : Ending) : List Document → Except Fault (List α)
  | [] => (fun _ => []) <$> ending e
  | d :: rest => do
    let a ← r d
    let as ← items r e rest
    return a :: as

def list (r : Reader α) : Reader (List α)
  | .array deep ds e => if deep then .error .tooDeep else items r e ds
  | d => .error (unexpected "a sequence" d)

def entries (r : Reader α) (e : Ending) :
    List (Except Fault String × Document) → Except Fault (List (String × α))
  | [] => (fun _ => []) <$> ending e
  | (key, d) :: rest => do
    let k ← key
    let a ← r d
    let as ← entries r e rest
    return (k, a) :: as

/-- A dictionary; the last entry of a key counts. -/
def dictionary (r : Reader α) : Reader (Dictionary α)
  | .object deep members e =>
    if deep then .error .tooDeep else Dictionary.ofEntries <$> entries r e members
  | d => .error (unexpected "a map" d)

end Reader

/-- A result with the place in the document at which it was decided. -/
inductive Placed (α : Type) where
  | ok (a : α)
  | fault (place : Nat) (f : Fault)

namespace Placed

variable {α β : Type}

/-- A fault moves in front of every later one. -/
def guard (earlier : Option (Nat × Fault)) : Placed α → Placed α
  | .ok a => match earlier with
    | some (place, f) => .fault place f
    | none => .ok a
  | .fault place f => match earlier with
    | some (place', f') => if place' < place then .fault place' f' else .fault place f
    | none => .fault place f

def map (g : α → β) : Placed α → Placed β
  | .ok a => .ok (g a)
  | .fault place f => .fault place f

/-- Two results together; of two faults the earlier counts, at one place the first. -/
def seq (g : Placed (α → β)) (x : Unit → Placed α) : Placed β :=
  match g, x () with
  | .ok g, .ok a => .ok (g a)
  | .ok _, .fault place f => .fault place f
  | .fault place f, .ok _ => .fault place f
  | .fault place f, .fault place' f' =>
    if place' < place then .fault place' f' else .fault place f

instance : Functor Placed where
  map := map

instance : Applicative Placed where
  pure := .ok
  seq := seq

def toExcept : Placed α → Except Fault α
  | .ok a => .ok a
  | .fault _ f => .error f

end Placed

/-- Where the fields of a record are found. -/
structure Fields where
  /-- The place and the document of a field that is there. -/
  find : String → Option (Nat × Document)
  /-- A place behind all parts of the document. -/
  behind : Nat
  /-- The fault of a field that must be there and is not. -/
  absent : String → Fault

namespace Fields

variable {α : Type}

/-- A document read at its place. -/
def readAt (r : Reader α) (place : Nat) (d : Document) : Placed α :=
  match r d with
  | .ok a => .ok a
  | .error f => .fault place f

/-- A field that must be there. -/
def required (s : Fields) (name : String) (r : Reader α) : Placed α :=
  match s.find name with
  | some (place, d) => readAt r place d
  | none => .fault s.behind (s.absent name)

/-- A field with a value to take where it is absent. -/
def withDefault (s : Fields) (name : String) (r : Reader α) (absent : α) : Placed α :=
  match s.find name with
  | some (place, d) => readAt r place d
  | none => .ok absent

/-- A field that may be absent or null. -/
def optional (s : Fields) (name : String) (r : Reader α) : Placed (Option α) :=
  s.withDefault name (Reader.optional r) none

/-- A list that is empty where it is absent or null. -/
def list (s : Fields) (name : String) (r : Reader α) : Placed (List α) :=
  s.withDefault name (fun d => (·.getD []) <$> Reader.optional (Reader.list r) d) []

/-- A dictionary that is empty where it is absent or null. -/
def dictionary (s : Fields) (name : String) (r : Reader α) : Placed (Dictionary α) :=
  s.withDefault name (fun d => (·.getD []) <$> Reader.optional (Reader.dictionary r) d) []

/-- A text that is empty where it is absent. -/
def text (s : Fields) (name : String) : Placed String :=
  s.withDefault name Reader.text ""

/-- A flag that is down where it is absent. -/
def flag (s : Fields) (name : String) : Placed Bool :=
  s.withDefault name Reader.flag false

end Fields

/-- A record type: what it is called, and its field names in order. -/
structure RecordShape where
  title : String
  names : List String
  /-- Other names of a field. -/
  aliases : List (String × String) := []

namespace RecordShape

variable {α : Type}

/-- The field that a key means. -/
def canonical (shape : RecordShape) (key : String) : String :=
  ((shape.aliases.find? (·.1 = key)).map (·.2)).getD key

/-- The first fault that lies outside the fields: in a key, in a member no field takes, in a
repeated field, or at the end. `seen` are the fields met before. -/
def strayFault (shape : RecordShape) (e : Ending) (place : Nat) (seen : List String) :
    List (Except Fault String × Document) → Option (Nat × Fault)
  | [] => match e with
    | .broken b => some (place, b.read)
    | _ => none
  | (.error f, _) :: _ => some (place, f)
  | (.ok key, d) :: rest =>
    let name := shape.canonical key
    if shape.names.contains name then
      if seen.contains name then some (place, .duplicateField name)
      else strayFault shape e (place + 1) (name :: seen) rest
    else match d.skipFault with
      | some f => some (place, f)
      | none => strayFault shape e (place + 1) seen rest

/-- The first member that means a field, from a place on. -/
def member? (shape : RecordShape) (name : String) (place : Nat) :
    List (Except Fault String × Document) → Option (Nat × Document)
  | [] => none
  | (.ok key, d) :: rest =>
    if shape.canonical key = name then some (place, d) else member? shape name (place + 1) rest
  | (.error _, _) :: rest => member? shape name (place + 1) rest

/-- The fields of an object. -/
def ofMembers (shape : RecordShape) (members : List (Except Fault String × Document)) : Fields :=
  { find := fun name => shape.member? name 0 members
    behind := members.length + 1
    absent := .missingField }

/-- The fields of an array, by position. -/
def ofItems (shape : RecordShape) (items : List Document) : Fields :=
  { find := fun name => do
      let place := shape.names.idxOf name
      return (place, ← items[place]?)
    behind := items.length + 1
    absent := fun name => .wrongLength (shape.names.idxOf name)
      ("struct " ++ shape.title ++ " with " ++ toString shape.names.length ++ " elements") }

/-- The fault of an array that does not end with its last field. -/
def surplusFault (shape : RecordShape) (items : List Document) (e : Ending) :
    Option (Nat × Fault) :=
  let count := shape.names.length
  if items.length < count then match e with
    | .broken b => some (items.length, b.read)
    | _ => none
  else match e with
    | .whole =>
      if items.length = count then none
      else some (count, .wrongLength items.length "fewer elements in array")
    | .closed => if items.length = count then none else some (count, .trailingCharacters)
    | .broken b =>
      if items.length = count then match b.read with
        | .trailingComma => some (count, .trailingComma)
        | .endInArray => some (count, .endInArray)
        | _ => some (count, .trailingCharacters)
      else some (count, .trailingCharacters)

/-- A record, from an object by name or from an array by position. -/
def reader (shape : RecordShape) (build : Fields → Placed α) : Reader α
  | .object deep members e =>
    if deep then .error .tooDeep
    else ((build (shape.ofMembers members)).guard (shape.strayFault e 0 [] members)).toExcept
  | .array deep items e =>
    if deep then .error .tooDeep
    else ((build (shape.ofItems items)).guard (shape.surplusFault items e)).toExcept
  | d => .error (Reader.unexpected ("struct " ++ shape.title) d)

end RecordShape

namespace Reader

mutual

/-- Any value. -/
def value : Document → Except Fault Value
  | .null => .ok .null
  | .bool b => .ok (.bool b)
  | .number n => .number <$> n
  | .text s => .text <$> s
  | .array deep ds e => if deep then .error .tooDeep else .array <$> valueItems e ds
  | .object deep ms e =>
    if deep then .error .tooDeep else Value.ofMembers <$> valueEntries e ms
  | .broken b => .error b.read

def valueItems (e : Ending) : List Document → Except Fault (List Value)
  | [] => (fun _ => []) <$> ending e
  | d :: rest => do
    let v ← value d
    let vs ← valueItems e rest
    return v :: vs

def valueEntries (e : Ending) :
    List (Except Fault String × Document) → Except Fault (List (String × Value))
  | [] => (fun _ => []) <$> ending e
  | (key, d) :: rest => do
    let k ← key
    let v ← value d
    let vs ← valueEntries e rest
    return (k, v) :: vs

end

variable {α : Type}

/-- Reads a text in UTF-8; nothing but white space may follow the document. -/
def ofBytes (r : Reader α) (s : List UInt8) : Except Fault α := do
  let (d, surplus) := Document.ofBytes s
  let a ← r d
  if surplus then .error .trailingCharacters else .ok a

/-- Reads a text. -/
def ofText (r : Reader α) (s : String) : Except Fault α :=
  r.ofBytes s.toUTF8.toList

/-- Reads a value that was never text. -/
def ofValue (r : Reader α) (v : Value) : Except Fault α :=
  r (.ofValue v)

end Reader

end ResourceTree.Json
