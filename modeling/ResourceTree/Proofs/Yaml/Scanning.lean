import ResourceTree.Proofs.Yaml.Gaps
import ResourceTree.Yaml.Token

/-!
# Scanning block collections

The states in which a printed document is scanned. Outside of brackets the tokens so far are known
whatever slots were left between them, and what might be a key is given up without a fault. A gap leads to the
next token, with the blocks closed that lie further in.
-/

namespace ResourceTree.Yaml
set_option autoImplicit false

/-! ## Open blocks -/

/-- The block collections that are open, and the tokens so far. -/
structure Blocks where
  indent : Int
  outer : List Int
  out : List Token

namespace Blocks

variable {column : Int} {b : Blocks}

def emits (b : Blocks) (ts : List Token) : Blocks := { b with out := b.out ++ ts }

/-- Closes the blocks that lie further in than a column. -/
def closeFrom (column indent : Int) (out : List Token) : List Int → Blocks
  | [] => { indent, outer := [], out }
  | i :: outer =>
    if column < indent then closeFrom column i (out ++ [.blockEnd]) outer
    else { indent, outer := i :: outer, out }

def closed (column : Int) (b : Blocks) : Blocks := closeFrom column b.indent b.out b.outer

/-- The blocks in which the keys at a column stand. -/
def opened (column : Int) (b : Blocks) : Blocks :=
  if b.indent < column then
    { indent := column, outer := b.indent :: b.outer, out := b.out ++ [.blockMapping] }
  else b

@[simp] theorem emits_emits (b : Blocks) (ts us : List Token) : (b.emits ts).emits us = b.emits (ts ++ us) := by
  simp [emits]

/-- A block that is no deeper than the column stays open. -/
theorem closed_of_le (le : b.indent ≤ column) : b.closed column = b := by
  obtain ⟨indent, outer, out⟩ := b
  cases outer with
  | nil => rfl
  | cons i outer => exact if_neg (Int.not_lt.2 le)

/-- A deeper block is closed, and then those around it as far as they are deeper. -/
theorem closed_of_lt {i : Int} {outer : List Int} (inner : b.outer = i :: outer) (less : column < b.indent) :
    b.closed column = ({ indent := i, outer, out := b.out ++ [.blockEnd] } : Blocks).closed column := by
  rw [closed, inner]
  exact if_pos less

end Blocks

/-- No gap and no comment. -/
def Clear (text : List Char) : Prop := ∀ ch ∈ text.head?, IsSolid ch ∧ ch ≠ '#' ∧ ch ≠ '\ufeff'

theorem Follows.clear {column : Nat} {text : List Char} (follows : Follows column text) : Clear text := by
  intro ch first
  have name := follows.2 ch first
  refine ⟨isSolid_of_isNameChar name, ?_, ?_⟩
  · rintro rfl
    exact absurd name (by decide)
  · rintro rfl
    exact absurd name (by decide)

namespace Scan

/-! ## States -/

/-- A state in block context, in front of some text at some column. -/
structure At (s : Scan) (allowed : Bool) (text : List Char) (column : Nat) (b : Blocks) : Prop where
  rest : s.cursor.rest = text
  column : s.cursor.column = column
  allowed : s.keyAllowed = allowed
  indent : s.indent = b.indent
  outer : s.outer = b.outer
  out : tokensOf s.items.reverse = b.out
  /-- Each slot has a number below the next one. -/
  fresh : ∀ id filling, Item.slot id filling ∈ s.items → id < s.slots
  /-- There are no brackets, and what might be a key need not be one. -/
  candidate : ∃ k, s.candidates = [k] ∧ ∀ k' ∈ k, k'.required = false

variable {s r : Scan} {allowed : Bool} {text : List Char} {column : Nat} {b : Blocks}

theorem tokensOf_append (xs ys : List Item) : tokensOf (xs ++ ys) = tokensOf xs ++ tokensOf ys :=
  List.flatMap_append

namespace At

variable {k : Option Candidate}

theorem inFlow (here : At s allowed text column b) : s.inFlow = false := by
  obtain ⟨k, eq, -⟩ := here.candidate
  rw [Scan.inFlow, eq]
  rfl

/-- The same state with another candidate. -/
theorem noted (here : At s allowed text column b) (free : ∀ k' ∈ k, k'.required = false) :
    At { s with candidates := [k] } allowed text column b :=
  { here with candidate := ⟨k, rfl, free⟩ }

/-- Candidates that are too far back are given up without a fault. -/
theorem dropStale (here : At s allowed text column b) :
    ∃ k, s.dropStale = .ok { s with candidates := [k] } ∧ ∀ k' ∈ k, k'.required = false := by
  obtain ⟨k, eq, free⟩ := here.candidate
  rw [Scan.dropStale, eq, List.mapM_cons, List.mapM_nil]
  split
  · refine ⟨none, ?_, by simp⟩
    cases k with
    | none => rfl
    | some k => simp [abandon, free k rfl, bind, Except.bind, pure, Except.pure]
  · exact ⟨k, rfl, free⟩

theorem dropCandidate (here : At s allowed text column b) :
    s.dropCandidate = .ok { s with candidates := [none] } := by
  obtain ⟨k, eq, free⟩ := here.candidate
  rw [Scan.dropCandidate, eq]
  cases k with
  | none => rfl
  | some k => simp [abandon, free k rfl, bind, Except.bind, pure, Except.pure]

theorem emit (t : Token) (here : At s allowed text column b) :
    At (s.emit t) allowed text column (b.emits [t]) :=
  { here with
    out := by
      rw [Scan.emit, List.reverse_cons, tokensOf_append, here.out]
      rfl
    fresh := fun id filling member => here.fresh id filling (by simpa [Scan.emit] using member) }

/-- A token that has been read up to a place. -/
theorem emitUpTo (t : Token) (c : Cursor) (allowed' : Bool) (here : At s allowed text column b) :
    At ({ s with keyAllowed := allowed' }.emitUpTo t c) allowed' c.rest c.column (b.emits [t]) :=
  { here.emit t with rest := rfl, column := rfl, allowed := rfl }

/-- A token of some characters. -/
theorem emitPassing (t : Token) (count : Nat) (allowed' : Bool) (here : At s allowed text column b) :
    At ({ s with keyAllowed := allowed' }.emitPassing t count) allowed' (text.drop count) (column + count)
      (b.emits [t]) :=
  { here.emit t with
    rest := congrArg (List.drop count) here.rest
    column := congrArg (· + count) here.column
    allowed := rfl }

/-- Noting that a key may begin. -/
theorem noteCandidate_eq (here : At s true text column b) :
    s.noteCandidate = .ok { s with
      candidates := [some
        { slot := s.slots, required := decide (s.indent = s.cursor.column), index := s.cursor.index,
          line := s.cursor.line, column := s.cursor.column }]
      items := .slot s.slots [] :: s.items, slots := s.slots + 1 } := by
  rw [Scan.noteCandidate, if_pos here.allowed, here.dropCandidate]
  rfl

/-- Where no key has to begin. -/
theorem noteCandidate (here : At s allowed text column b) (inside : b.indent < column) :
    ∃ r, s.noteCandidate = .ok r ∧ r.cursor = s.cursor ∧ At r allowed text column b := by
  cases allowed with
  | false => exact ⟨s, by rw [Scan.noteCandidate, here.allowed]; rfl, rfl, here⟩
  | true =>
    have free : decide (s.indent = s.cursor.column) = false := by
      rw [here.indent, here.column, decide_eq_false_iff_not]
      omega
    refine ⟨_, here.noteCandidate_eq, rfl, { here with
      out := ?_, fresh := ?_, candidate := ⟨_, rfl, fun k eq => ?_⟩ }⟩
    · rw [List.reverse_cons, tokensOf_append, here.out]
      exact List.append_nil _
    · rintro id filling (_ | ⟨_, member⟩)
      · exact Nat.lt_succ_self _
      · exact Nat.lt_succ_of_lt (here.fresh id filling member)
    · obtain rfl := Option.some.inj eq
      exact free

/-- Closing the blocks inside of a column only emits their ends. -/
theorem unindentFrom (column' : Int) (here : At s allowed text column b) :
    At (unindentFrom column' s s.outer) allowed text column (b.closed column') ∧
      (Scan.unindentFrom column' s s.outer).cursor = s.cursor := by
  generalize outer : s.outer = is
  induction is generalizing s b with
  | nil =>
    have closed : b.closed column' = b := by
      rw [Blocks.closed, ← here.outer, outer, Blocks.closeFrom, ← outer, here.outer]
    rw [Scan.unindentFrom, closed]
    exact ⟨here, rfl⟩
  | cons i is ih =>
    rw [Scan.unindentFrom]
    split
    · next less =>
      rw [Blocks.closed_of_lt (here.outer.symm.trans outer) (here.indent ▸ less)]
      exact ih (s := { s.emit .blockEnd with indent := i, outer := is })
        { here.emit .blockEnd with indent := rfl, outer := rfl } rfl
    · next notLess =>
      rw [Blocks.closed_of_le (here.indent ▸ Int.not_lt.1 notLess)]
      exact ⟨here, rfl⟩

theorem unindentTo (column' : Int) (here : At s allowed text column b) :
    At (s.unindentTo column') allowed text column (b.closed column') ∧
      (s.unindentTo column').cursor = s.cursor := by
  rw [Scan.unindentTo, here.inFlow]
  exact here.unindentFrom column'

end At

/-! ## Gaps -/

/-- The state at the next token, with the blocks closed that end before it. -/
def settle (s : Scan) : Except Break Scan := do
  let s ← (s.passGap (s.cursor.rest.length + 1)).dropStale
  return s.unindentTo s.cursor.column

/-- A scanner settles at the next token and takes it. -/
theorem next_eq (s : Scan) :
    s.next = do
      let s ← s.settle
      match s.cursor.head? with
      | none => return (← (← s.finish).dropStale, true)
      | some ch => return (← (← s.token ch).dropStale, false) := by
  rw [next, settle]
  cases (s.passGap (s.cursor.rest.length + 1)).dropStale <;> rfl

theorem passGap_blanks {n : Nat} (steps : Nat) (eq : s.cursor.rest = List.replicate n ' ' ++ text)
    (clear : Clear text) : s.passGap (steps + 1) = { s with cursor := s.cursor.skip n } := by
  have noMark : s.cursor.sees '\ufeff' = false := by
    cases n with
    | zero =>
      cases text with
      | nil => simp [Cursor.sees, eq]
      | cons ch text => simpa [Cursor.sees, eq] using (clear ch rfl).2.2
    | succ n => simp [Cursor.sees, eq, List.replicate_succ]
  have taken (tabs : Bool) : s.cursor.rest.takeWhile
      (fun ch => (ch = ' ' || (ch = '\t' && tabs)) && !isBreak ch) = List.replicate n ' ' := by
    rw [eq, List.takeWhile_append_of_pos (by simp [isBreak_space])]
    cases text with
    | nil => simp
    | cons ch text =>
      obtain ⟨⟨noBlank, -⟩, -, -⟩ := clear ch rfl
      simp only [isBlank, Bool.or_eq_false_iff, decide_eq_false_iff_not] at noBlank
      simp [noBlank]
  have passed : (s.cursor.skip n).rest = text := by
    rw [rest_skip, eq, List.drop_left' List.length_replicate]
  have noHash : (s.cursor.skip n).sees '#' = false := by
    cases text with
    | nil => simp [Cursor.sees, passed]
    | cons ch text => simpa [Cursor.sees, passed] using (clear ch rfl).2.1
  have noBreak : (s.cursor.skip n).seesBreak = false := by
    cases text with
    | nil => simp [Cursor.seesBreak, passed]
    | cons ch text => simpa [Cursor.seesBreak, passed] using (clear ch rfl).1.2
  rw [passGap]
  simp only [noMark, Bool.and_false, Bool.false_eq_true, if_false, Cursor.pass, Cursor.span, taken,
    List.length_replicate, noHash, noBreak]

/-- The end of a line and the spaces of the next one. -/
theorem passGap_line {n : Nat} (steps : Nat) (here : At s allowed ('\n' :: (List.replicate n ' ' ++ text)) column b)
    (clear : Clear text) :
    s.passGap (steps + 2) =
      { s with cursor := (s.cursor.nextLine 1).skip n, keyAllowed := true } := by
  have eq := here.rest
  have noMark : s.cursor.sees '\ufeff' = false := by simp [Cursor.sees, eq]
  have taken (tabs : Bool) : s.cursor.rest.takeWhile
      (fun ch => (ch = ' ' || (ch = '\t' && tabs)) && !isBreak ch) = [] := by
    simp [eq]
  have noHash : s.cursor.sees '#' = false := by simp [Cursor.sees, eq]
  have atBreak : s.cursor.seesBreak = true := by simp [Cursor.seesBreak, eq, isBreak]
  rw [passGap]
  simp only [noMark, Bool.and_false, Bool.false_eq_true, if_false, Cursor.pass, Cursor.span, taken,
    List.length_nil, skip_zero, noHash, atBreak, if_true, here.inFlow, Bool.not_false, Bool.or_true,
    takeBreak_eq eq (by decide) (by decide)]
  exact passGap_blanks steps (by simp [Cursor.nextLine, eq]) clear

/-- The next token is in front of some text at some column. -/
def Comes (s : Scan) (allowed : Bool) (text : List Char) (column : Nat) (b : Blocks) : Prop :=
  ∃ r, s.settle = .ok r ∧ At r allowed text column b ∧ text.length ≤ s.cursor.rest.length

theorem At.comes {c : Cursor} {allowed' : Bool} {text' : List Char} (here : At s allowed text column b)
    (passed : s.passGap (s.cursor.rest.length + 1) = { s with cursor := c, keyAllowed := allowed' })
    (rest : c.rest = text') (le : text'.length ≤ text.length) :
    Comes s allowed' text' c.column (b.closed c.column) := by
  have there : At { s with cursor := c, keyAllowed := allowed' } allowed' text' c.column b :=
    { here with rest, column := rfl, allowed := rfl }
  obtain ⟨k, dropped, free⟩ := there.dropStale
  have settled := (there.noted free).unindentTo c.column
  refine ⟨_, ?_, settled.1, by rwa [here.rest]⟩
  rw [settle, passed, dropped]
  rfl

/-- Behind some spaces the scanner comes to the text after them. -/
theorem At.comes_blanks {n : Nat} (here : At s allowed (List.replicate n ' ' ++ text) column b)
    (clear : Clear text) (le : b.indent ≤ column + n) : Comes s allowed text (column + n) b := by
  have rest : (s.cursor.skip n).rest = text := by
    rw [rest_skip, here.rest, List.drop_left' List.length_replicate]
  have comes := here.comes (passGap_blanks _ here.rest clear) rest (by simp)
  have place : (s.cursor.skip n).column = column + n := by rw [Cursor.skip, here.column]
  rwa [place, here.allowed, Blocks.closed_of_le (by exact_mod_cast le)] at comes

/-- At a text that begins with a token the scanner stays where it is. -/
theorem At.comes_here (here : At s allowed text column b) (clear : Clear text) :
    Comes s allowed text column (b.closed column) := by
  have comes := here.comes (passGap_blanks (n := 0) _ here.rest clear) here.rest (Nat.le_refl _)
  rwa [skip_zero, here.allowed, here.column] at comes

/-- At the end of a line the scanner comes to the next one, behind its indentation. -/
theorem At.comes_line {n : Nat} (here : At s allowed ('\n' :: (List.replicate n ' ' ++ text)) column b)
    (clear : Clear text) : Comes s true text n (b.closed n) := by
  have steps : s.cursor.rest.length + 1 = n + text.length + 2 := by simp [here.rest]
  have rest : ((s.cursor.nextLine 1).skip n).rest = text := by
    rw [rest_skip, Cursor.nextLine, here.rest, List.drop_one, List.tail_cons, List.drop_left' List.length_replicate]
  have comes := here.comes (steps ▸ passGap_line _ here clear) rest (by simp; omega)
  have place : ((s.cursor.nextLine 1).skip n).column = n := by simp [Cursor.skip, Cursor.nextLine]
  rwa [place] at comes

/-- Lines of which the first one is moved in by so many columns at most. -/
def Starts (bound : Nat) (text : List Char) : Prop :=
  ∃ n tail, text = List.replicate n ' ' ++ tail ∧ Follows n tail ∧ n ≤ bound

/-- The next token is the first one of some lines. -/
def AtLine (s : Scan) (text : List Char) (b : Blocks) : Prop :=
  ∃ n tail, text = List.replicate n ' ' ++ tail ∧ Follows n tail ∧ Comes s true tail n (b.closed n)

theorem At.atLine {bound : Nat} (here : At s allowed ('\n' :: text) column b) (starts : Starts bound text) :
    AtLine s text b := by
  obtain ⟨n, tail, rfl, follows, -⟩ := starts
  exact ⟨n, tail, rfl, follows, here.comes_line follows.clear⟩

theorem At.atLine_here (here : At s true text column b) (follows : Follows column text) :
    AtLine s (List.replicate column ' ' ++ text) b :=
  ⟨column, text, rfl, follows, here.comes_here follows.clear⟩

/-! ## Runs -/

/-- Scanning goes on from one state to another; each step passes a character. -/
def Reaches (s t : Scan) : Prop :=
  ∃ n, n + t.cursor.rest.length ≤ s.cursor.rest.length ∧ ∀ steps, run (steps + n) s = run steps t

namespace Reaches

variable {t u : Scan}

theorem refl (s : Scan) : Reaches s s := ⟨0, by simp, fun _ => rfl⟩

theorem trans (first : Reaches s t) (then' : Reaches t u) : Reaches s u := by
  obtain ⟨n, le, runs⟩ := first
  obtain ⟨m, le', runs'⟩ := then'
  exact ⟨m + n, by omega, fun steps => by rw [← Nat.add_assoc, runs, runs']⟩

/-- A token that takes characters off the text brings the scanner further. -/
theorem of_next (next : s.next = .ok (t, false)) (less : t.cursor.rest.length < s.cursor.rest.length) :
    Reaches s t :=
  ⟨1, by omega, fun steps => by rw [run, next]⟩

end Reaches

/-- One token. What the token leaves is in front of less text, at one of some places. -/
theorem Comes.step {ch : Char} {rest : List Char} (comes : Comes s allowed (ch :: rest) column b)
    {place : Nat → Prop} {allowed' : Bool} {text' : List Char} {b' : Blocks}
    (token : ∀ {r : Scan}, At r allowed (ch :: rest) column b →
      ∃ r' column', r.token ch = .ok r' ∧ place column' ∧ At r' allowed' text' column' b')
    (less : text'.length ≤ rest.length) :
    ∃ t column', Reaches s t ∧ place column' ∧ At t allowed' text' column' b' := by
  obtain ⟨r, settled, there, le⟩ := comes
  obtain ⟨r', column', eq, placed, at'⟩ := token there
  obtain ⟨k, dropped, free⟩ := at'.dropStale
  refine ⟨_, column', Reaches.of_next ?_ ?_, placed, at'.noted free⟩
  · rw [next_eq, settled]
    have head : r.cursor.head? = some ch := by rw [Cursor.head?, there.rest]; rfl
    simp only [bind, Except.bind, head, eq, dropped]
    rfl
  · rw [at'.rest]
    simp at le
    omega

/-- The end of the text. -/
theorem Comes.finish (comes : Comes s allowed [] 0 b) (steps : Nat) :
    run (steps + 1) s = (b.closed (-1)).out ++ [.streamEnd] := by
  obtain ⟨r, settled, there, -⟩ := comes
  obtain ⟨closed, -⟩ := there.unindentTo (-1)
  have left := closed.noted (k := none) (by simp)
  have ended : At ({ r.unindentTo (-1) with candidates := [none], keyAllowed := false }.emit .streamEnd) false [] 0
      ((b.closed (-1)).emits [.streamEnd]) :=
    { left.emit .streamEnd with allowed := rfl }
  obtain ⟨k, dropped, free⟩ := ended.dropStale
  have head : r.cursor.head? = none := by rw [Cursor.head?, there.rest]; rfl
  have leaves : r.finish =
      .ok ({ r.unindentTo (-1) with candidates := [none], keyAllowed := false }.emit .streamEnd) := by
    simp only [Scan.finish, there.column, if_true, leaveBlocks, closed.dropCandidate, bind, Except.bind]
    rfl
  have next : s.next = .ok ({ ({ r.unindentTo (-1) with
      candidates := [none], keyAllowed := false }.emit .streamEnd) with candidates := [k] }, true) := by
    rw [next_eq, settled]
    simp only [bind, Except.bind, head, leaves, dropped]
    rfl
  rw [run, next]
  exact (ended.noted free).out

end Scan

end ResourceTree.Yaml
