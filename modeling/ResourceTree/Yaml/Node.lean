import ResourceTree.Yaml.Token

/-!
# YAML nodes

A node stays readable up to the place where its text breaks: the break ends every collection
around it and is raised by the reader that comes to it. An alias stands for the node of its
anchor, which is looked up once the whole document is there; a node may so stand inside itself.
-/

namespace ResourceTree.Yaml
set_option autoImplicit false

inductive Node where
  | scalar (tag : Option Tag) (style : Style) (text : String)
  | sequence (tag : Option Tag) (items : List Node) (ending : Option Break)
  | mapping (tag : Option Tag) (members : List (Node × Node)) (ending : Option Break)
  /-- Another node, by its number. -/
  | standIn (number : Nat)
  | broken (b : Break)

instance : Inhabited Node := ⟨.scalar none .plain ""⟩

/-- The node where nothing is written. -/
def Node.empty : Node := .scalar none .plain ""

/-- Nodes that aliases stand for, by their numbers, in the order in which they begin. -/
abbrev Anchored := Array (Nat × Node)

/-- The node of a number. Where several have it, the last one counts. -/
def Anchored.find? (a : Anchored) (number : Nat) : Option Node :=
  (a.toList.reverse.find? (·.1 = number)).map (·.2)

/-- The node that is meant by one that may stand for another. -/
def Anchored.resolve (a : Anchored) : Node → Node
  | .standIn number => (a.find? number).getD .empty
  | n => n

/-- Tokens that are still to be taken, with what was said before them. -/
structure Feed where
  tokens : List Token
  /-- The numbers of the anchors' names. -/
  names : List (String × Nat) := []
  anchored : Anchored := #[]
  handles : List (String × Tag) := []

namespace Feed

/-- The next token; no token at all is the end. -/
def peek (f : Feed) : Token := f.tokens.headD .streamEnd

def skip (f : Feed) : Feed := { f with tokens := f.tokens.drop 1 }

/-- The feed at a place where the text turns out to be broken. -/
def breakOff (b : Break) (f : Feed) : Feed := { f with tokens := [.broken b] }

/-- The break at which the feed has arrived. -/
def break? (f : Feed) : Option Break :=
  match f.peek with
  | .broken b => some b
  | _ => none

/-- Numbers the node that begins here by the number of names so far. -/
def beginAnchored (name : String) (f : Feed) : Feed :=
  let number := f.names.length
  { f with
    names := (name, number) :: f.names.filter (·.1 ≠ name)
    anchored := f.anchored.push (number, Node.empty) }

/-- Keeps the whole of the node that began as the one of some place. -/
def endAnchored (place : Nat) (n : Node) (f : Feed) : Feed :=
  { f with anchored := f.anchored.modify place fun (number, _) => (number, n) }

/-- The anchor at the feed. -/
def takeAnchor (f : Feed) : Option String × Feed :=
  match f.peek with
  | .anchor name => (some name, f.skip)
  | _ => (none, f)

/-- The tag at the feed. -/
def takeTag (f : Feed) : Option (String × Tag) × Feed :=
  match f.peek with
  | .tag handle suffix => (some (handle, suffix), f.skip)
  | _ => (none, f)

/-- The handles that need not be declared. -/
def commonHandles : List (String × Tag) :=
  [("!", .ofText "!"), ("!!", .ofText "tag:yaml.org,2002:")]

/-- A tag in full; none if its handle is unknown. -/
def fullTag? (f : Feed) : String × Tag → Option Tag
  | (handle, suffix) =>
    if handle = "" then some suffix
    else ((f.handles ++ commonHandles).find? (·.1 = handle)).map (·.2 ++ suffix)

/-- The anchor and tag in front of a node, in either order. -/
def properties (f : Feed) : Option String × Option (String × Tag) × Feed :=
  match f.takeAnchor with
  | (some a, f) =>
    let (t, f) := f.takeTag
    (some a, t, f)
  | (none, f) =>
    let (t, f) := f.takeTag
    let (a, f) := if t.isSome then f.takeAnchor else (none, f)
    (a, t, f)

end Feed

/-- What kind of node may stand at a place. -/
inductive Place where
  | flow
  | block
  /-- A member of a block mapping, where a sequence need not be moved in. -/
  | member
  deriving DecidableEq

namespace Node

/-- Tokens in front of which no node stands in a block collection. -/
def endsMember : Token → Bool
  | .key | .value | .blockEnd => true
  | _ => false

mutual

/-- The node at a feed. -/
def take : Nat → Place → Feed → Node × Feed
  | 0, _, f => (Node.empty, f)
  | steps + 1, place, f =>
    match f.peek with
    | .broken b => (.broken b, f)
    | .aliasOf name => match f.names.find? (·.1 = name) with
      | some (_, number) => (.standIn number, f.skip)
      | none => (.broken { problem := .unknownAnchor }, f.breakOff { problem := .unknownAnchor })
    | _ =>
      let (anchor, tag, f) := f.properties
      match f.break?, tag.map f.fullTag? with
      | some b, _ => (.broken b, f)
      | none, some none =>
        let b : Break := { problem := .unknownTagHandle, context := some .node }
        (.broken b, f.breakOff b)
      | none, full =>
        let tag := full.join
        match anchor with
        | none => takeContent steps place tag.isSome tag f
        | some name =>
          let (n, f') := takeContent steps place true tag (f.beginAnchored name)
          (n, f'.endAnchored f.anchored.size n)

/-- The content of a node after its properties. -/
def takeContent : Nat → Place → Bool → Option Tag → Feed → Node × Feed
  | 0, _, _, _, f => (Node.empty, f)
  | steps + 1, place, hasProperties, tag, f =>
    match f.peek with
    | .broken b => (.broken b, f)
    | .scalar style text => (.scalar tag style text, f.skip)
    | .openSequence =>
      let (items, f) := flowItems steps true f.skip
      (.sequence tag items f.break?, if f.break?.isSome then f else f.skip)
    | .openMapping =>
      let (members, f) := flowMembers steps true f.skip
      (.mapping tag members f.break?, if f.break?.isSome then f else f.skip)
    | t =>
      if place = .member ∧ t = .dash then
        let (items, f) := looseItems steps f
        (.sequence tag items f.break?, f)
      else if place ≠ .flow ∧ t = .blockSequence then
        let (items, f) := blockItems steps f.skip
        (.sequence tag items f.break?, if f.break?.isSome then f else f.skip)
      else if place ≠ .flow ∧ t = .blockMapping then
        let (members, f) := blockMembers steps f.skip
        (.mapping tag members f.break?, if f.break?.isSome then f else f.skip)
      else if hasProperties then (.scalar tag .plain "", f)
      else
        let context := if place = .flow then Context.flowNode else .blockNode
        let b : Break := { problem := .noContent, context }
        (.broken b, f.breakOff b)

/-- The items of a block sequence, up to its end. -/
def blockItems : Nat → Feed → List Node × Feed
  | 0, f => ([], f)
  | steps + 1, f =>
    match f.peek with
    | .broken _ | .blockEnd => ([], f)
    | .dash =>
      let f := f.skip
      let (n, f) := match f.peek with
        | .dash | .blockEnd => (Node.empty, f)
        | _ => take steps .block f
      let (rest, f) := blockItems steps f
      (n :: rest, f)
    | _ => ([], f.breakOff { problem := .noDash, context := some .blockCollection })

/-- The items of a sequence that is not moved in, up to the first token that is no dash. -/
def looseItems : Nat → Feed → List Node × Feed
  | 0, f => ([], f)
  | steps + 1, f =>
    match f.peek with
    | .dash =>
      let f := f.skip
      let (n, f) := match f.peek with
        | .dash | .key | .value | .blockEnd => (Node.empty, f)
        | _ => take steps .block f
      let (rest, f) := looseItems steps f
      (n :: rest, f)
    | _ => ([], f)

/-- The members of a block mapping, up to its end. -/
def blockMembers : Nat → Feed → List (Node × Node) × Feed
  | 0, f => ([], f)
  | steps + 1, f =>
    match f.peek with
    | .broken _ | .blockEnd => ([], f)
    | .key =>
      let f := f.skip
      let (k, f) := if endsMember f.peek then (Node.empty, f) else take steps .member f
      let (v, f) := match f.peek with
        | .value =>
          let f := f.skip
          if endsMember f.peek then (Node.empty, f) else take steps .member f
        | .broken b => (.broken b, f)
        | _ => (Node.empty, f)
      let (rest, f) := blockMembers steps f
      ((k, v) :: rest, f)
    | _ => ([], f.breakOff { problem := .noKey, context := some .blockMapping })

/-- The items between brackets, up to the closing one. -/
def flowItems : Nat → Bool → Feed → List Node × Feed
  | 0, _, f => ([], f)
  | steps + 1, first, f =>
    match f.peek with
    | .broken _ | .closeSequence => ([], f)
    | t =>
      if !first && t ≠ .comma then
        ([], f.breakOff { problem := .noSequenceComma, context := some .flowSequence })
      else
        let f := if first then f else f.skip
        match f.peek with
        | .closeSequence => ([], f)
        | .key =>
          let (m, f) := singleMember steps f.skip
          let (rest, f) := flowItems steps false f
          (m :: rest, f)
        | _ =>
          let (n, f) := take steps .flow f
          let (rest, f) := flowItems steps false f
          (n :: rest, f)

/-- A member between brackets that stands for a mapping of its own. -/
def singleMember : Nat → Feed → Node × Feed
  | 0, f => (Node.empty, f)
  | steps + 1, f =>
    let (k, f) := match f.peek with
      -- the token is passed over
      | .value | .comma | .closeSequence => (Node.empty, f.skip)
      | _ => take steps .flow f
    let (v, f) := match f.peek with
      | .value =>
        let f := f.skip
        match f.peek with
        | .comma | .closeSequence => (Node.empty, f)
        | _ => take steps .flow f
      | .broken b => (.broken b, f)
      | _ => (Node.empty, f)
    (.mapping none [(k, v)] f.break?, f)

/-- The members between braces, up to the closing one. -/
def flowMembers : Nat → Bool → Feed → List (Node × Node) × Feed
  | 0, _, f => ([], f)
  | steps + 1, first, f =>
    match f.peek with
    | .broken _ | .closeMapping => ([], f)
    | t =>
      if !first && t ≠ .comma then
        ([], f.breakOff { problem := .noMappingComma, context := some .flowMapping })
      else
        let f := if first then f else f.skip
        match f.peek with
        | .closeMapping => ([], f)
        | .key =>
          let f := f.skip
          let (k, f) := match f.peek with
            | .value | .comma | .closeMapping => (Node.empty, f)
            | _ => take steps .flow f
          let (v, f) := match f.peek with
            | .value =>
              let f := f.skip
              match f.peek with
              | .comma | .closeMapping => (Node.empty, f)
              | _ => take steps .flow f
            | .broken b => (.broken b, f)
            | _ => (Node.empty, f)
          let (rest, f) := flowMembers steps false f
          ((k, v) :: rest, f)
        | _ =>
          let (k, f) := take steps .flow f
          let v : Node := match f.break? with
            | some b => .broken b
            | none => .empty
          let (rest, f) := flowMembers steps false f
          ((k, v) :: rest, f)

end

end Node

/-- The first document of a text. -/
structure Document where
  root : Node
  anchored : Anchored
  /-- A break behind the root. -/
  ending : Option Break
  /-- Something follows the document. -/
  surplus : Bool

namespace Document

/-- Takes the directives in front of a document. -/
def takeDirectives : Bool → Feed → List Token → Feed
  | versioned, f, .version major minor :: rest =>
    if versioned then f.breakOff { problem := .duplicateVersion }
    else if major ≠ 1 ∨ (minor ≠ 1 ∧ minor ≠ 2) then f.breakOff { problem := .incompatibleVersion }
    else takeDirectives true { f with tokens := rest } rest
  | versioned, f, .tagHandle handle start :: rest =>
    if f.handles.any (·.1 = handle) then f.breakOff { problem := .duplicateTagHandle }
    else takeDirectives versioned
      { f with tokens := rest, handles := f.handles ++ [(handle, start)] } rest
  | _, f, _ => f

/-- The document whose root has been taken off a feed. -/
def ofRoot : Node × Feed → Document
  | (root, f) => match f.break? with
    | some b => { root, anchored := f.anchored, ending := some b, surplus := false }
    | none =>
      let rest := f.tokens.dropWhile (· = Token.documentEnd)
      let surplus := rest.headD .streamEnd ≠ Token.streamEnd
      { root, anchored := f.anchored, ending := none, surplus }

/-- Every token takes at most three steps, one to a list of parts, one to a part and one to its
content. -/
def takeRoot (f : Feed) : Node × Feed := Node.take (3 * f.tokens.length + 3) .block f

/-- A document that breaks before its root. -/
def ofBreak (b : Break) : Document :=
  { root := .broken b, anchored := #[], ending := some b, surplus := false }

/-- The first document of a token list; one without tokens has an empty root. -/
def ofTokens (tokens : List Token) : Document :=
  let f : Feed := { tokens }
  match f.peek with
  | .streamEnd => ofRoot (Node.empty, f)
  | .version _ _ | .tagHandle _ _ | .documentStart =>
    let f := takeDirectives false f tokens
    match f.peek with
    | .documentStart =>
      let f := f.skip
      match f.peek with
      | .documentStart | .documentEnd | .streamEnd | .version _ _ | .tagHandle _ _ =>
        ofRoot (Node.empty, f)
      | _ => ofRoot (takeRoot f)
    | .broken b => ofBreak b
    | _ => ofBreak { problem := .noDocumentStart }
  | _ => ofRoot (takeRoot f)

/-- The first document of a text. -/
def ofText (s : String) : Document := ofTokens (Token.ofText s)

end Document

end ResourceTree.Yaml
