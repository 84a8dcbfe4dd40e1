import ResourceTree.Json.Token

/-!
# JSON documents as they are found

A document keeps its members in the order of the text, with repeated keys, and stays readable up
to the place where it breaks: the fault is part of the document and is raised by the reader that
comes to it. Values that were never text are documents without faults.

The tree is built by a stack of open containers, one step per token.
-/

namespace ResourceTree.Json
set_option autoImplicit false

/-- How the part of an array or object that was found ends. -/
inductive Ending where
  /-- A closing bracket. -/
  | closed
  /-- The end of a container that was never text. -/
  | whole
  | broken (b : Break)

/-- A document; `deep` marks a container below the nesting limit of texts. -/
inductive Document where
  | null
  | bool (b : Bool)
  | number (n : Except Fault Number)
  | text (s : Except Fault String)
  | array (deep : Bool) (items : List Document) (ending : Ending)
  | object (deep : Bool) (members : List (Except Fault String × Document)) (ending : Ending)
  | broken (b : Break)

instance : Inhabited Document := ⟨.null⟩

namespace Document

/-- Texts may nest this many containers. -/
def nestingLimit : Nat := 127

/-- A container part way through, its parts reversed; an object keeps the key whose value is
awaited. -/
inductive Open where
  | array (items : List Document)
  | object (members : List (Except Fault String × Document)) (key : Except Fault String)

/-- What may come next. -/
inductive Awaited where
  | value
  | item (first : Bool)
  | key (first : Bool)
  | colon
  | separator

/-- A document part way through. -/
inductive State where
  | reading (awaited : Awaited) (opened : List Open)
  | done (document : Document) (surplus : Bool)

/-- The container that an open one becomes; `outer` is the number of containers around it. -/
def Open.close (outer : Nat) (ending : Ending) : Open → Document
  | .array items => .array (nestingLimit ≤ outer) items.reverse ending
  | .object members _ => .object (nestingLimit ≤ outer) members.reverse ending

/-- A value put into the innermost open container. -/
def Open.put (d : Document) : Open → Open
  | .array items => .array (d :: items)
  | .object members key => .object ((key, d) :: members) key

/-- A finished value goes into the innermost open container. -/
def put (d : Document) : List Open → State
  | [] => .done d false
  | o :: outer => .reading .separator (o.put d :: outer)

/-- A value that breaks off ends every container around it. -/
def putBroken (b : Break) (d : Document) : List Open → Document
  | [] => d
  | o :: outer => putBroken b ((o.put d).close outer.length (.broken b)) outer

/-- The document breaks where a value is awaited. -/
def breakValue (b : Break) (opened : List Open) : State :=
  .done (putBroken b (.broken b) opened) false

/-- The document breaks between the parts of the innermost container. -/
def breakPart (b : Break) : List Open → State
  | [] => .done (.broken b) false
  | o :: outer => .done (putBroken b (o.close outer.length (.broken b)) outer) false

/-- The innermost container is closed. -/
def closeInnermost : List Open → State
  | [] => .done (.broken (.both .noValue)) false
  | o :: outer => put (o.close outer.length .closed) outer

/-- A token where a value is awaited. -/
def stepValue (opened : List Open) : Token → State
  | .openArray => .reading (.item true) (.array [] :: opened)
  | .openObject => .reading (.key true) (.object [] (.ok "") :: opened)
  | .null => put .null opened
  | .bool b => put (.bool b) opened
  | .number n => put (.number n) opened
  | .text s => put (.text s) opened
  | .broken b => breakValue b opened
  | _ => breakValue (.both .noValue) opened

/-- A token after a value. -/
def stepSeparator : List Open → Token → State
  | [], _ => .done .null true
  | .array items :: outer, .comma => .reading (.item false) (.array items :: outer)
  | .array items :: outer, .closeArray => closeInnermost (.array items :: outer)
  | .array items :: outer, _ => breakPart (.both .noArrayComma) (.array items :: outer)
  | .object members key :: outer, .comma => .reading (.key false) (.object members key :: outer)
  | .object members key :: outer, .closeObject => closeInnermost (.object members key :: outer)
  | .object members key :: outer, _ =>
    breakPart (.both .noObjectComma) (.object members key :: outer)

/-- A token where a key is awaited. -/
def stepKey (first : Bool) : List Open → Token → State
  | .object members _ :: outer, .text s => .reading .colon (.object members s :: outer)
  | opened, .closeObject =>
    if first then closeInnermost opened else breakPart ⟨.trailingComma, .keyNotText⟩ opened
  | opened, .broken b =>
    -- only a broken text can be a key
    match b.skip with
    | .endInText | .badEscape | .controlCharacter => breakPart b opened
    | _ => breakPart (.both .keyNotText) opened
  | opened, _ => breakPart (.both .keyNotText) opened

/-- One token. -/
def step : State → Token → State
  | .done d _, _ => .done d true
  | .reading .value opened, t => stepValue opened t
  | .reading (.item true) opened, .closeArray => closeInnermost opened
  | .reading (.item false) opened, .closeArray => breakPart ⟨.trailingComma, .noValue⟩ opened
  | .reading (.item _) opened, t => stepValue opened t
  | .reading (.key first) opened, t => stepKey first opened t
  | .reading .colon opened, .colon => .reading .value opened
  | .reading .colon opened, _ => breakValue (.both .noColon) opened
  | .reading .separator opened, t => stepSeparator opened t

/-- The text ends. -/
def finish : State → Document × Bool
  | .done d surplus => (d, surplus)
  | .reading awaited opened =>
    let state := match awaited, opened with
      | .value, _ => breakValue (.both .endInValue) opened
      | .item true, _ => breakPart (.both .endInArray) opened
      | .item false, _ => breakPart (.both .endInValue) opened
      | .key true, _ => breakPart (.both .endInObject) opened
      | .key false, _ => breakPart ⟨.endInValue, .endInObject⟩ opened
      | .colon, _ => breakValue (.both .endInObject) opened
      | .separator, .array _ :: _ => breakPart (.both .endInArray) opened
      | .separator, _ => breakPart (.both .endInObject) opened
    match state with
    | .done d surplus => (d, surplus)
    | .reading _ _ => (.broken (.both .endInValue), false)

/-- The document of a token list, and whether tokens follow it. -/
def ofTokens (tokens : List Token) : Document × Bool :=
  finish (tokens.foldl step (.reading .value []))

/-- The document of a text in UTF-8, and whether anything follows it. -/
def ofBytes (s : List UInt8) : Document × Bool :=
  ofTokens (Token.ofBytes s)

mutual

/-- The fault that a reader raises which skips the document. -/
def skipFault : Document → Option Fault
  | .array _ items ending => skipItems items ending
  | .object _ members ending => skipMembers members ending
  | .broken b => some b.skip
  | _ => none

def skipItems : List Document → Ending → Option Fault
  | [], .broken b => some b.skip
  | [], _ => none
  | d :: rest, ending => (skipFault d).or (skipItems rest ending)

def skipMembers : List (Except Fault String × Document) → Ending → Option Fault
  | [], .broken b => some b.skip
  | [], _ => none
  | (_, d) :: rest, ending => (skipFault d).or (skipMembers rest ending)

end

mutual

/-- A value as a document without faults. -/
def ofValue : Value → Document
  | .null => .null
  | .bool b => .bool b
  | .number n => .number (.ok n)
  | .text s => .text (.ok s)
  | .array items => .array false (ofItems items) .whole
  | .object members => .object false (ofMembers members) .whole

def ofItems : List Value → List Document
  | [] => []
  | v :: rest => ofValue v :: ofItems rest

def ofMembers : List (String × Value) → List (Except Fault String × Document)
  | [] => []
  | (k, v) :: rest => (.ok k, ofValue v) :: ofMembers rest

end

mutual

/-- Containers inside containers, counted at the deepest place. -/
def depth : Document → Nat
  | .array _ items _ => depthItems items + 1
  | .object _ members _ => depthMembers members + 1
  | _ => 0

def depthItems : List Document → Nat
  | [] => 0
  | d :: rest => max (depth d) (depthItems rest)

def depthMembers : List (Except Fault String × Document) → Nat
  | [] => 0
  | (_, d) :: rest => max (depth d) (depthMembers rest)

end

end Document

end ResourceTree.Json
