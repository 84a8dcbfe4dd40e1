import ResourceTree.Number.FloatText
import ResourceTree.Text.Quoted

/-!
# Why a YAML document is refused

The causes for which a text is no YAML, or for which a value in it does not have the shape that
was expected, and the wording of each. What is being read when a text breaks is part of the
wording.
-/

namespace ResourceTree.Yaml
set_option autoImplicit false

/-- What was being read when a text broke. -/
inductive Context where
  | directive
  | versionDirective
  | tagDirective
  | handleStart
  | handleEnd
  | tagOfDirective
  | anchor
  | aliasOf
  | tag
  | tagContent
  | blockScalar
  | quotedScalar
  | escape
  | plainScalar
  | simpleKey
  | nextToken
  | node
  | blockNode
  | flowNode
  | blockCollection
  | blockMapping
  | flowSequence
  | flowMapping
  deriving DecidableEq, Repr

def Context.describe : Context → String
  | directive => "while scanning a directive"
  | versionDirective => "while scanning a %YAML directive"
  | tagDirective => "while scanning a %TAG directive"
  | handleStart => "while scanning a tag directive"
  | handleEnd => "while parsing a tag directive"
  | tagOfDirective => "while parsing a %TAG directive"
  | anchor => "while scanning an anchor"
  | aliasOf => "while scanning an alias"
  | tag => "while scanning a tag"
  | tagContent => "while parsing a tag"
  | blockScalar => "while scanning a block scalar"
  | quotedScalar => "while scanning a quoted scalar"
  | escape => "while parsing a quoted scalar"
  | plainScalar => "while scanning a plain scalar"
  | simpleKey => "while scanning a simple key"
  | nextToken => "while scanning for the next token"
  | node => "while parsing a node"
  | blockNode => "while parsing a block node"
  | flowNode => "while parsing a flow node"
  | blockCollection => "while parsing a block collection"
  | blockMapping => "while parsing a block mapping"
  | flowSequence => "while parsing a flow sequence"
  | flowMapping => "while parsing a flow mapping"

/-- What is wrong with a text that is no YAML. -/
inductive Problem where
  /-- A character that no document may hold, at a byte offset. -/
  | forbiddenCharacter (offset : Nat)
  | noToken
  | noColon
  | blockEntryHere
  | keyHere
  | valueHere
  | noCommentOrBreak
  | noDirectiveName
  | badDirectiveName
  | unknownDirective
  | longVersion
  | noVersion
  | noVersionPoint
  | noBlank
  | noBlankOrBreak
  | noExclamation
  | noTagText
  | badTagEscape
  | badLeadingOctet
  | badTrailingOctet
  | noTagEnd
  | noAnchorName
  | zeroIndentation
  | tabForIndentation
  | tabAgainstIndentation
  | documentMarker
  | endOfStream
  | unknownEscape
  | noHexDigits
  | badEscapedCharacter
  | flowColon
  | noDocumentStart
  | duplicateVersion
  | incompatibleVersion
  | duplicateTagHandle
  | unknownTagHandle
  | noContent
  | noDash
  | noKey
  | noSequenceComma
  | noMappingComma
  | unknownAnchor
  | secondDocument
  deriving DecidableEq, Repr

def Problem.describe : Problem → String
  | forbiddenCharacter offset =>
    "control characters are not allowed"
      ++ (if offset = 0 then "" else " at position " ++ toString offset)
  | noToken => "found character that cannot start any token"
  | noColon => "could not find expected ':'"
  | blockEntryHere => "block sequence entries are not allowed in this context"
  | keyHere => "mapping keys are not allowed in this context"
  | valueHere => "mapping values are not allowed in this context"
  | noCommentOrBreak => "did not find expected comment or line break"
  | noDirectiveName => "could not find expected directive name"
  | badDirectiveName => "found unexpected non-alphabetical character"
  | unknownDirective => "found unknown directive name"
  | longVersion => "found extremely long version number"
  | noVersion => "did not find expected version number"
  | noVersionPoint => "did not find expected digit or '.' character"
  | noBlank => "did not find expected whitespace"
  | noBlankOrBreak => "did not find expected whitespace or line break"
  | noExclamation => "did not find expected '!'"
  | noTagText => "did not find expected tag URI"
  | badTagEscape => "did not find URI escaped octet"
  | badLeadingOctet => "found an incorrect leading UTF-8 octet"
  | badTrailingOctet => "found an incorrect trailing UTF-8 octet"
  | noTagEnd => "did not find the expected '>'"
  | noAnchorName => "did not find expected alphabetic or numeric character"
  | zeroIndentation => "found an indentation indicator equal to 0"
  | tabForIndentation => "found a tab character where an indentation space is expected"
  | tabAgainstIndentation => "found a tab character that violates indentation"
  | documentMarker => "found unexpected document indicator"
  | endOfStream => "found unexpected end of stream"
  | unknownEscape => "found unknown escape character"
  | noHexDigits => "did not find expected hexadecimal number"
  | badEscapedCharacter => "found invalid Unicode character escape code"
  | flowColon => "found unexpected ':'"
  | noDocumentStart => "did not find expected <document start>"
  | duplicateVersion => "found duplicate %YAML directive"
  | incompatibleVersion => "found incompatible YAML document"
  | duplicateTagHandle => "found duplicate %TAG directive"
  | unknownTagHandle => "found undefined tag handle"
  | noContent => "did not find expected node content"
  | noDash => "did not find expected '-' indicator"
  | noKey => "did not find expected key"
  | noSequenceComma => "did not find expected ',' or ']'"
  | noMappingComma => "did not find expected ',' or '\x7d'"
  | unknownAnchor => "unknown anchor"
  | secondDocument =>
    "deserializing from YAML containing more than one document is not supported"

/-- A text that is no YAML. -/
structure Break where
  problem : Problem
  context : Option Context := none
  deriving DecidableEq, Repr

def Break.message (b : Break) : String :=
  b.problem.describe ++ (match b.context with
    | some c => ", " ++ c.describe
    | none => "")

/-- What a document holds where something else was expected. -/
inductive Found where
  | null
  | bool (b : Bool)
  | whole (n : Int)
  /-- A whole number beyond sixty-four bits. -/
  | wide (n : Int)
  | double (x : Float)
  | text (s : String)
  | sequence
  | mapping

/-- Doubles in messages are positional and keep a point. -/
def messageStyle : Number.FloatStyle :=
  { Number.FloatStyle.plain with keepsPoint := true }

def Found.describe : Found → String
  | .null => "unit value"
  | .bool b => "boolean `" ++ (if b then "true" else "false") ++ "`"
  | .whole n => "integer `" ++ toString n ++ "`"
  | .wide n => "integer `" ++ toString n ++ "` as " ++ (if n < 0 then "i128" else "u128")
  | .double x => "floating point `" ++ messageStyle.text x ++ "`"
  | .text s => "string " ++ Text.quoted s
  | .sequence => "sequence"
  | .mapping => "map"

/-- What is wrong with a value. -/
inductive Misfit where
  | wrongType (found : Found) (expected : String)
  | wrongValue (found : Found) (expected : String)
  | unknownVariant (name : String) (expected : List String)
  | duplicateField (name : String)

def Misfit.message : Misfit → String
  | .wrongType found expected => "invalid type: " ++ found.describe ++ ", expected " ++ expected
  | .wrongValue found expected => "invalid value: " ++ found.describe ++ ", expected " ++ expected
  | .unknownVariant name expected =>
    "unknown variant `" ++ name ++ "`, expected " ++ Text.alternatives expected
  | .duplicateField name => "duplicate field `" ++ name ++ "`"

/-- A step from a collection to one of its parts. -/
inductive Part where
  | member (key : String)
  /-- A member whose key is not spelled where it stands. -/
  | unnamed
  | item (index : Nat)

/-- The cause of a refusal; a misfit tells where it stands. -/
inductive Fault where
  | broken (b : Break)
  | misfit (path : List Part) (m : Misfit)
  /-- A misfit that counts as one of the collection around the place where it is found. -/
  | outerMisfit (m : Misfit)

namespace Fault

/-- A fault seen from a collection around it. -/
def within (p : Part) : Fault → Fault
  | .misfit path m => .misfit (p :: path) m
  | .outerMisfit m => .misfit [] m
  | f => f

/-- A part as it is written in a path. -/
def partText : Part → String
  | .member key => key
  | .unnamed => "?"
  | .item i => "[" ++ toString i ++ "]"

/-- The way from the root to a part; points stand in front of members. -/
def pathText : List Part → String
  | [] => ""
  | p :: rest =>
    partText p ++ (match rest with
      | .member _ :: _ | .unnamed :: _ => "."
      | _ => "") ++ pathText rest

def message : Fault → String
  | .broken b => b.message
  | .outerMisfit m => m.message
  | .misfit [] m => m.message
  | .misfit path m => pathText path ++ ": " ++ m.message

end Fault

end ResourceTree.Yaml
