import ResourceTree.Json.Document
import ResourceTree.Proofs.Json.Tokens

/-!
# The document of a printed value

The tokens of a value build the document of that value, if it nests no deeper than texts may. The
stack of open containers is as it was once the last token of a value has been taken.
-/

namespace ResourceTree.Json
set_option autoImplicit false

open Document (State Open step put closeInnermost stepValue nestingLimit)

namespace Value

mutual

/-- The document that a text holds for a value: every container is closed. -/
def parsed : Value → Document
  | .null => .null
  | .bool b => .bool b
  | .number n => .number (.ok n)
  | .text s => .text (.ok s)
  | .array items => .array false (parsedItems items) .closed
  | .object members => .object false (parsedMembers members) .closed

def parsedItems : List Value → List Document
  | [] => []
  | v :: rest => v.parsed :: parsedItems rest

def parsedMembers : List (String × Value) → List (Except Fault String × Document)
  | [] => []
  | (k, v) :: rest => (.ok k, v.parsed) :: parsedMembers rest

end

end Value

namespace Document

/-- A value may come next, and it goes into the innermost container. -/
def Expects (state : State) (opened : List Open) : Prop :=
  ∀ t, t ≠ .closeArray → step state t = stepValue opened t

/-- A value may come at the very beginning. -/
theorem expects_value (opened : List Open) : Expects (.reading .value opened) opened :=
  fun _ _ => rfl

/-- A value may come in a list. -/
theorem expects_item (first : Bool) (opened : List Open) :
    Expects (.reading (.item first) opened) opened := by
  intro t other
  cases t with
  | closeArray => exact absurd rfl other
  | _ => cases first <;> rfl

/-- A list in a shallow place is closed as it stands. -/
theorem close_array {outer : Nat} (shallow : outer < nestingLimit) (done : List Document) :
    (Open.array done).close outer .closed = .array false done.reverse .closed := by
  have flat : ¬ nestingLimit ≤ outer := Nat.not_le.2 shallow
  simp only [Open.close, flat, decide_false]

/-- An object in a shallow place is closed as it stands. -/
theorem close_object {outer : Nat} (shallow : outer < nestingLimit)
    (done : List (Except Fault String × Document)) (key : Except Fault String) :
    (Open.object done key).close outer .closed = .object false done.reverse .closed := by
  have flat : ¬ nestingLimit ≤ outer := Nat.not_le.2 shallow
  simp only [Open.close, flat, decide_false]

/-- A key with its colon. -/
theorem foldl_key (first : Bool) (k : String) (ts : List Token)
    (done : List (Except Fault String × Document)) (key : Except Fault String)
    (opened : List Open) :
    (.text (.ok k) :: .colon :: ts).foldl step (.reading (.key first) (.object done key :: opened)) =
      ts.foldl step (.reading .value (.object done (.ok k) :: opened)) := rfl

mutual

/-- The tokens of a value put its document where a value is expected, if there is room for its
depth. -/
theorem foldl_tokens (v : Value) {opened : List Open} {state : State}
    (expects : Expects state opened) (room : v.parsed.depth + opened.length ≤ nestingLimit) :
    v.tokens.foldl step state = put v.parsed opened := by
  match v with
  | .null => exact expects .null (by simp)
  | .bool b => exact expects (.bool b) (by simp)
  | .number n => exact expects (.number (.ok n)) (by simp)
  | .text s => exact expects (.text (.ok s)) (by simp)
  | .array items =>
    simp only [Value.parsed, depth] at room
    have start : step state .openArray = .reading (.item true) (.array [] :: opened) :=
      expects .openArray (by simp)
    match items with
    | [] =>
      rw [Value.tokens, List.foldl_cons, start]
      exact congrArg (put · opened) (close_array (by omega) [])
    | v :: vs =>
      simp only [Value.parsedItems, depthItems] at room
      have head := foldl_tokens v (expects_item true (.array [] :: opened))
        (by rw [List.length_cons]; omega)
      rw [Value.tokens, List.foldl_cons, start, List.foldl_append, head]
      exact foldl_items vs [v.parsed] (by omega)
  | .object members =>
    simp only [Value.parsed, depth] at room
    have start : step state .openObject = .reading (.key true) (.object [] (.ok "") :: opened) :=
      expects .openObject (by simp)
    match members with
    | [] =>
      rw [Value.tokens, List.foldl_cons, start]
      exact congrArg (put · opened) (close_object (by omega) [] (.ok ""))
    | (k, v) :: members =>
      simp only [Value.parsedMembers, depthMembers] at room
      have head := foldl_tokens v (expects_value (.object [] (.ok k) :: opened))
        (by rw [List.length_cons]; omega)
      rw [Value.tokens, List.foldl_cons, start, foldl_key, List.foldl_append, head]
      exact foldl_members members [(.ok k, v.parsed)] (.ok k) (by omega)

theorem foldl_items (vs : List Value) {opened : List Open} (done : List Document)
    (room : depthItems (Value.parsedItems vs) + 1 + opened.length ≤ nestingLimit) :
    (Value.tokensItems vs).foldl step (.reading .separator (.array done :: opened)) =
      put (.array false (done.reverse ++ Value.parsedItems vs) .closed) opened := by
  match vs with
  | [] =>
    rw [Value.parsedItems, List.append_nil]
    exact congrArg (put · opened) (close_array (by omega) done)
  | v :: vs =>
    simp only [Value.parsedItems, depthItems] at room
    have head := foldl_tokens v (expects_item false (.array done :: opened))
      (by rw [List.length_cons]; omega)
    have tail : (Value.tokensItems vs).foldl step (put v.parsed (.array done :: opened)) = _ :=
      foldl_items vs (v.parsed :: done) (by omega)
    rw [List.reverse_cons, List.append_assoc] at tail
    have comma : step (.reading .separator (.array done :: opened)) .comma =
        .reading (.item false) (.array done :: opened) := rfl
    rw [Value.tokensItems, List.foldl_cons, List.foldl_append, comma, head]
    exact tail

theorem foldl_members (members : List (String × Value)) {opened : List Open}
    (done : List (Except Fault String × Document)) (key : Except Fault String)
    (room : depthMembers (Value.parsedMembers members) + 1 + opened.length ≤ nestingLimit) :
    (Value.tokensMembers members).foldl step (.reading .separator (.object done key :: opened)) =
      put (.object false (done.reverse ++ Value.parsedMembers members) .closed) opened := by
  match members with
  | [] =>
    rw [Value.parsedMembers, List.append_nil]
    exact congrArg (put · opened) (close_object (by omega) done key)
  | (k, v) :: members =>
    simp only [Value.parsedMembers, depthMembers] at room
    have head := foldl_tokens v (expects_value (.object done (.ok k) :: opened))
      (by rw [List.length_cons]; omega)
    have tail : (Value.tokensMembers members).foldl step
        (put v.parsed (.object done (.ok k) :: opened)) = _ :=
      foldl_members members ((.ok k, v.parsed) :: done) (.ok k) (by omega)
    rw [List.reverse_cons, List.append_assoc] at tail
    rw [Value.tokensMembers, List.foldl_cons]
    refine (foldl_key false k _ done key opened).trans ?_
    rw [List.foldl_append, head]
    exact tail

end

/-- The bytes of a printed value are parsed to its document, and nothing is left over. -/
theorem ofBytes_bytes {v : Value} (plain : v.Plain) (shallow : v.parsed.depth ≤ nestingLimit) :
    ofBytes v.bytes = (v.parsed, false) := by
  rw [ofBytes, Token.ofBytes_bytes plain, ofTokens, foldl_tokens v (expects_value []) shallow]
  rfl

end Document

end ResourceTree.Json
