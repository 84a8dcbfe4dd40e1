import ResourceTree.Proofs.Yaml.Characters
import ResourceTree.Yaml.Reader

/-!
# Printed documents

The document of a mapping is read back as one node, which has no tags, no anchors and no breaks, and
nothing follows it.
-/

namespace ResourceTree.Yaml
set_option autoImplicit false

/-! ## The whole text -/

open Scan in
/-- A printed document is scanned as the tokens of its mapping. -/
theorem ofText_print {ms : List (String × Value)} (some : ms ≠ []) (fits : MembersFit ms) :
    Token.ofText (print ms) = (Value.mapping ms).tokens ++ [.streamEnd] := by
  have chars : (print ms).toList = Printer.members 0 ms := String.toList_ofList
  rw [Token.ofText, chars]
  simp only [forbidden?_of_allowed (allowed_members 0 ms fits)]
  let b : Blocks := { indent := -1, outer := [], out := [] }
  let s : Scan :=
    { cursor := .start (Printer.members 0 ms), indent := -1, outer := [], keyAllowed := true
      candidates := [none], items := [], slots := 0 }
  have here : At s true (Printer.members 0 ms) 0 b :=
    { rest := rfl, column := rfl, allowed := rfl, indent := rfl, outer := rfl, out := rfl
      fresh := fun _ _ member => nomatch member
      candidate := ⟨none, rfl, fun _ member => nomatch member⟩ }
  have ended : Starts 0 [] := ⟨0, [], rfl, ⟨fun _ => rfl, fun _ member => nomatch member⟩, Nat.le_refl 0⟩
  have line : AtLine s (Printer.members 0 ms ++ []) b := by
    obtain ⟨n, tail, eq, follows, le⟩ := starts_members ms fits ended
    obtain rfl : n = 0 := Nat.le_zero.1 le
    rw [List.append_nil] at eq
    rw [eq] at here
    rw [List.append_nil, eq]
    exact here.atLine_here follows
  obtain ⟨t, ⟨n, le, runs⟩, m, tail, eq, follows, comes⟩ := members_run ms some fits line (by decide) ended
  obtain ⟨rfl, rfl⟩ : m = 0 ∧ tail = [] := by simpa using eq
  have opened : b.opened 0 = { indent := 0, outer := [-1], out := [.blockMapping] } := rfl
  rw [Int.natCast_zero, opened, Blocks.closed_of_le (b := Blocks.emits _ _) (Int.le_refl 0)] at comes
  have closes : (Blocks.emits { indent := 0, outer := [-1], out := [.blockMapping] } (memberTokens ms)).closed (-1) =
      { indent := -1, outer := [], out := [.blockMapping] ++ memberTokens ms ++ [.blockEnd] } := rfl
  have finished := comes.finish ((Printer.members 0 ms).length - n)
  have steps : (Printer.members 0 ms).length + 1 = (Printer.members 0 ms).length - n + 1 + n := by
    have : n + t.cursor.rest.length ≤ (Printer.members 0 ms).length := le
    omega
  rw [steps, runs, finished, closes]
  obtain ⟨m, ms, rfl⟩ := List.exists_cons_of_ne_nil some
  rfl

/-! ## Nodes -/

/-- The node of an item. -/
def itemNode (x : String) : Node := .scalar none (Printer.styleOf x) x

mutual

/-- The node of a value. -/
def Value.node : Value → Node
  | .word x => .scalar none .plain x
  | .text x => itemNode x
  | .texts xs => .sequence none (xs.map itemNode) none
  | .mapping ms => .mapping none (memberNodes ms) none

/-- The nodes of the members of a mapping. -/
def memberNodes : List (String × Value) → List (Node × Node)
  | [] => []
  | (k, v) :: rest => (.scalar none .plain k, v.node) :: memberNodes rest

end

/-- A feed with other tokens to be taken. -/
def Feed.before (f : Feed) (ts : List Token) : Feed := { f with tokens := ts }

namespace Feed

variable {f : Feed} {t : Token} {ts us : List Token}

@[simp] theorem peek_before : (f.before (t :: ts)).peek = t := rfl

@[simp] theorem skip_before : (f.before (t :: ts)).skip = f.before ts := rfl

end Feed

namespace Node

variable {f : Feed} {steps : Nat} {place : Place} {rest : List Token}

/-- Tokens in front of which nothing else is said about a node. -/
def beginsBare : Token → Bool
  | .broken _ | .aliasOf _ | .anchor _ | .tag _ _ => false
  | _ => true

theorem take_bare {t : Token} (bare : beginsBare t = true) :
    take (steps + 1) place (f.before (t :: rest)) =
      takeContent steps place false none (f.before (t :: rest)) := by
  cases t <;> first | rfl | simp [beginsBare] at bare

/-- A scalar is taken for a node. -/
theorem take_scalar (place : Place) (rest : List Token) (style : Style) (x : String) (enough : 2 ≤ steps) :
    take steps place (f.before (.scalar style x :: rest)) = (.scalar none style x, f.before rest) := by
  obtain ⟨steps, rfl⟩ := Nat.exists_eq_add_of_le' enough
  exact take_bare rfl

/-- The items of a sequence that is not moved in. -/
theorem looseItems_tokens (xs : List String) (ends : rest.head? ≠ some .dash) (enough : xs.length + 2 ≤ steps) :
    looseItems steps (f.before (xs.flatMap itemTokens ++ rest)) = (xs.map itemNode, f.before rest) := by
  obtain ⟨steps, rfl⟩ := Nat.exists_eq_add_of_le' (Nat.le_trans (Nat.le_add_left 1 (xs.length + 1)) enough)
  induction xs generalizing steps with
  | nil =>
    have noDash : (f.before rest).peek ≠ .dash := by
      cases rest with
      | nil => exact nofun
      | cons t rest => simpa using ends
    rw [List.flatMap_nil, List.nil_append, looseItems]
    split
    · next dash => exact absurd dash noDash
    · rfl
  | cons x xs ih =>
    rw [List.length_cons] at enough
    obtain ⟨steps, rfl⟩ := Nat.exists_eq_add_of_le' (show 1 ≤ steps by omega)
    have two : 2 ≤ steps + 1 := by omega
    have item := take_scalar (f := f) .block (xs.flatMap itemTokens ++ rest) (Printer.styleOf x) x two
    have others := ih steps (by omega)
    change looseItems (steps + 1 + 1)
      (f.before (.dash :: .scalar (Printer.styleOf x) x :: (xs.flatMap itemTokens ++ rest))) = _
    rw [looseItems]
    simp only [Feed.peek_before, Feed.skip_before, item, others, List.map_cons]
    rfl

/-- What stands behind a value in a mapping: another member, or the end. -/
def EndsValue (ts : List Token) : Prop := ts.head? = some .key ∨ ts.head? = some .blockEnd

theorem break?_of_endsValue (ends : EndsValue rest) : (f.before rest).break? = none := by
  cases rest with
  | nil => rfl
  | cons t rest =>
    rcases ends with ends | ends <;> obtain rfl := Option.some.inj ends <;> rfl

/-- A mapping is taken for a node, with its members. -/
theorem take_mapping {ms : List (String × Value)} (outside : place ≠ .flow)
    (members : blockMembers steps (f.before (memberTokens ms ++ .blockEnd :: rest)) =
      (memberNodes ms, f.before (.blockEnd :: rest))) :
    take (steps + 2) place (f.before (.blockMapping :: (memberTokens ms ++ .blockEnd :: rest))) =
      (.mapping none (memberNodes ms) none, f.before rest) := by
  rw [take_bare rfl, takeContent]
  simp only [Feed.peek_before, Feed.skip_before, members]
  simp only [outside, ne_eq, not_false_eq_true, reduceCtorEq, and_false, and_self, if_false, if_true]
  rfl

/-- A list that stands below its key is taken for a node, with its items. -/
theorem take_texts {xs : List String} {x : String} (ends : EndsValue rest)
    (enough : (x :: xs).length + 2 ≤ steps) :
    take (steps + 2) .member (f.before ((x :: xs).flatMap itemTokens ++ rest)) =
      (.sequence none ((x :: xs).map itemNode) none, f.before rest) := by
  have noDash : rest.head? ≠ some .dash := by
    rcases ends with ends | ends <;> simp [ends]
  have items : looseItems steps (f.before (.dash :: .scalar (Printer.styleOf x) x ::
      (xs.flatMap itemTokens ++ rest))) = ((x :: xs).map itemNode, f.before rest) :=
    looseItems_tokens (x :: xs) noDash enough
  change take (steps + 2) .member (f.before (.dash :: .scalar (Printer.styleOf x) x ::
    (xs.flatMap itemTokens ++ rest))) = _
  rw [take_bare rfl, takeContent]
  simp only [Feed.peek_before, and_self, if_true, items, break?_of_endsValue ends]

mutual

/-- The node of a value is taken off its tokens. -/
theorem take_value (v : Value) {f : Feed} {rest : List Token} (ends : EndsValue rest) {steps : Nat}
    (enough : v.tokens.length + 3 ≤ steps) :
    take steps .member (f.before (v.tokens ++ rest)) = (v.node, f.before rest) := by
  obtain ⟨steps, rfl⟩ := Nat.exists_eq_add_of_le' (Nat.le_trans (Nat.le_add_left 3 _) enough)
  cases v with
  | word x => exact take_scalar .member rest .plain x (by omega)
  | text x => exact take_scalar .member rest (Printer.styleOf x) x (by omega)
  | texts xs =>
    cases xs with
    | nil => rfl
    | cons x xs =>
      have length : (Value.texts (x :: xs)).tokens.length = 2 * (x :: xs).length := by
        change ((x :: xs).flatMap itemTokens).length = _
        simp [itemTokens]
        omega
      have enough' : (x :: xs).length + 2 ≤ steps + 1 := by
        rw [length, List.length_cons] at enough
        rw [List.length_cons]
        omega
      exact take_texts ends enough'
  | mapping ms =>
    cases ms with
    | nil => rfl
    | cons m ms =>
      have length : (Value.mapping (m :: ms)).tokens.length = (memberTokens (m :: ms)).length + 2 := by
        change (Token.blockMapping :: memberTokens (m :: ms) ++ [Token.blockEnd]).length = _
        simp
      have enough' : (memberTokens (m :: ms)).length + 1 ≤ steps + 1 := by omega
      have outside : Place.member ≠ .flow := by decide
      have taken := take_mapping outside (take_members (m :: ms) (f := f) rest enough')
      change take _ _ (f.before (Token.blockMapping :: memberTokens (m :: ms) ++ [Token.blockEnd] ++ rest)) = _
      rwa [List.append_assoc]

/-- The nodes of members are taken off their tokens. -/
theorem take_members (ms : List (String × Value)) {f : Feed} (rest : List Token) {steps : Nat}
    (enough : (memberTokens ms).length + 1 ≤ steps) :
    blockMembers steps (f.before (memberTokens ms ++ .blockEnd :: rest)) =
      (memberNodes ms, f.before (.blockEnd :: rest)) := by
  obtain ⟨steps, rfl⟩ := Nat.exists_eq_add_of_le' (Nat.le_trans (Nat.le_add_left 1 _) enough)
  match ms with
  | [] => rfl
  | (k, v) :: ms =>
    rw [memberTokens, List.length_append, List.length_append] at enough
    obtain ⟨steps, rfl⟩ := Nat.exists_eq_add_of_le' (show 1 ≤ steps by simp at enough; omega)
    have ends : EndsValue (memberTokens ms ++ .blockEnd :: rest) := by
      cases ms with
      | nil => exact Or.inr rfl
      | cons m ms => exact Or.inl rfl
    simp only [List.length_cons, List.length_nil] at enough
    have two : 2 ≤ steps + 1 := by omega
    have enoughValue : v.tokens.length + 3 ≤ steps + 1 := by omega
    have enoughRest : (memberTokens ms).length + 1 ≤ steps + 1 := by omega
    have key := take_scalar (f := f) .member (.value :: (v.tokens ++ (memberTokens ms ++ .blockEnd :: rest))) .plain k
      two
    have value := take_value v (f := f) ends enoughValue
    have others := take_members ms (f := f) rest enoughRest
    have noEnd : endsMember (f.before (v.tokens ++ (memberTokens ms ++ .blockEnd :: rest))).peek = false := by
      cases v with
      | word x => rfl
      | text x => rfl
      | texts xs => cases xs <;> rfl
      | mapping ms => cases ms <;> rfl
    have split : memberTokens ((k, v) :: ms) ++ .blockEnd :: rest = .key :: .scalar .plain k :: .value ::
        (v.tokens ++ (memberTokens ms ++ .blockEnd :: rest)) := by
      simp [memberTokens]
    have noEnd' : endsMember (.scalar .plain k) = false := rfl
    rw [split, blockMembers]
    simp only [Feed.peek_before, Feed.skip_before, noEnd', key, noEnd, value, others, if_false,
      Bool.false_eq_true]
    rfl

end

end Node

/-! ## Documents -/

section

variable {ms : List (String × Value)}

/-- A printed document holds the node of its mapping and nothing else. -/
theorem document_print (some : ms ≠ []) (fits : MembersFit ms) :
    Document.ofText (print ms) =
      { root := (Value.mapping ms).node, anchored := #[], ending := none, surplus := false } := by
  obtain ⟨m, ms, rfl⟩ := List.exists_cons_of_ne_nil some
  have tokens : Token.ofText (print (m :: ms)) =
      .blockMapping :: (memberTokens (m :: ms) ++ [.blockEnd, .streamEnd]) := by
    rw [ofText_print some fits]
    change Token.blockMapping :: memberTokens (m :: ms) ++ [Token.blockEnd] ++ [.streamEnd] = _
    simp
  have enough : (memberTokens (m :: ms)).length + 1 ≤ 3 * (memberTokens (m :: ms)).length + 10 := by omega
  have members := Node.take_members (m :: ms) (f := { tokens := [] }) [.streamEnd] enough
  have length : 3 * (Token.blockMapping :: (memberTokens (m :: ms) ++ [.blockEnd, .streamEnd])).length + 3 =
      3 * (memberTokens (m :: ms)).length + 10 + 2 := by
    simp
    omega
  have root : Document.takeRoot { tokens := .blockMapping :: (memberTokens (m :: ms) ++ [.blockEnd, .streamEnd]) } =
      ((Value.mapping (m :: ms)).node, { tokens := [.streamEnd] }) := by
    rw [Document.takeRoot, length]
    exact Node.take_mapping (by decide) members
  have bare (ts : List Token) : Document.ofTokens (.blockMapping :: ts) =
      Document.ofRoot (Document.takeRoot { tokens := .blockMapping :: ts }) := rfl
  rw [Document.ofText, tokens, bare, root]
  rfl

/-- Reading a printed document is reading its node. -/
theorem readText_print {α : Type} (r : Reader α) (some : ms ≠ []) (fits : MembersFit ms) :
    Reader.ofText r (print ms) = r #[] (Value.mapping ms).node := by
  rw [Reader.ofText, document_print some fits]
  cases read : r #[] (Value.mapping ms).node with
  | error e => simp [bind, Except.bind]
  | ok a => simp [bind, Except.bind, Reader.ending, pure, Except.pure]

end

end ResourceTree.Yaml
