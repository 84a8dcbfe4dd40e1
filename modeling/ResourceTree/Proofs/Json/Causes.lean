import ResourceTree.Proofs.Json.Fair

/-!
# The faults in a document

Every fault that the tokens of a text hold is one of syntax, so that all faults in the document of the
text have their wording on one line. What is built from the tokens so far is such a document at each
step.
-/

namespace ResourceTree.Json
set_option autoImplicit false

/-- A break between two tokens has a fault of syntax either way. -/
theorem Break.clean_syntactic {read skip : Fault} (first : read.IsSyntax = true)
    (second : skip.IsSyntax = true) : Break.Clean ⟨read, skip⟩ :=
  ⟨Fault.clean_of_isSyntax first, Fault.clean_of_isSyntax second⟩

namespace Token

/-- Whatever fault the token holds has its wording on one line. -/
def Clean : Token → Prop
  | .number n => CleanIn n
  | .text s => CleanIn s
  | .broken b => b.Clean
  | _ => True

/-! ## Texts -/

/-- A text that is passed over breaks off with a fault of syntax. -/
theorem clean_skipText (s : List UInt8) : CleanIn (skipText s) := by
  fun_induction skipText s with
  | case2 => exact .ok _
  | case4 | case7 | case10 => assumption
  | _ => exact cleanIn_syntactic rfl

/-- A text that is read breaks off with a fault of syntax. -/
theorem clean_readText (done s : List UInt8) : CleanIn (readText done s) := by
  fun_induction readText done s with
  | case2 => exact .ok _
  | case6 | case11 | case15 | case18 => assumption
  | _ => exact cleanIn_syntactic rfl

/-- Bytes that are no text are refused with a fault of syntax. -/
theorem clean_decodeUtf8 (bytes : List UInt8) : CleanIn (decodeUtf8 bytes) := by
  unfold decodeUtf8
  split
  · exact .ok _
  · exact cleanIn_syntactic rfl

/-- The token of a text has its faults on one line. -/
theorem clean_takeText (s : List UInt8) : (takeText s).1.Clean := by
  have content : CleanIn (readText [] s >>= decodeUtf8) :=
    (clean_readText [] s).bind clean_decodeUtf8
  unfold takeText
  simp only
  split
  · exact content
  · next skip broken =>
    have passed : skip.Clean := clean_skipText s skip broken
    refine ⟨?_, passed⟩
    simp only
    split
    · next read refused => exact content read refused
    · exact passed

/-! ## Numbers -/

theorem clean_noDigit (s : List UInt8) : (noDigit s).Clean := by
  unfold noDigit
  split <;> exact Break.clean_syntactic rfl rfl

theorem clean_takeExponent (n : Numeral) (s : List UInt8) : RefusedFor Break.Clean (takeExponent n s) := by
  unfold takeExponent
  split
  · split
    · simp only
      split <;> exact .ite (clean_noDigit _) _
    · exact .ok _
  · exact .ok _

theorem clean_takeFraction (n : Numeral) (s : List UInt8) : RefusedFor Break.Clean (takeFraction n s) := by
  unfold takeFraction
  split
  · simp only
    split
    · exact .error (clean_noDigit _)
    · exact clean_takeExponent _ _
  · exact clean_takeExponent _ _

/-- A numeral that breaks off does so with a fault of syntax. -/
theorem clean_takeNumeral (negative : Bool) (s : List UInt8) :
    RefusedFor Break.Clean (takeNumeral negative s) := by
  unfold takeNumeral
  simp only
  split
  · exact .error (clean_noDigit _)
  · exact .error (Break.clean_syntactic rfl rfl)
  · exact clean_takeFraction _ _

/-- A double can be out of range, and that is a fault of syntax. -/
theorem clean_scaleByTen (significand : Float) (exponent : Int) (steps : Nat) :
    CleanIn (scaleByTen significand exponent steps) := by
  induction steps generalizing significand exponent with
  | zero => exact .ok _
  | succ steps ih =>
    unfold scaleByTen
    split
    · simp only
      split
      · split
        · exact cleanIn_syntactic rfl
        · exact .ok _
      · exact .ok _
    · split
      · exact .ok _
      · split
        · exact cleanIn_syntactic rfl
        · exact ih _ _

theorem clean_toDouble (n : Numeral) : CleanIn n.toDouble := by
  unfold Numeral.toDouble
  simp only
  split
  · split
    · exact cleanIn_syntactic rfl
    · exact .ok _
  · exact (clean_scaleByTen _ _ _).bind fun x => .ok _

/-- A numeral is taken for a number or refused on one line. -/
theorem clean_value (n : Numeral) : CleanIn n.value := by
  unfold Numeral.value
  simp only
  split
  · exact .ok _
  · split
    · exact .ok _
    · exact (clean_toDouble n).map _

/-- The token of a number has its faults on one line. -/
theorem clean_takeNumber (negative : Bool) (s : List UInt8) : (takeNumber negative s).1.Clean := by
  unfold takeNumber
  split
  · exact clean_value _
  · next b broken => exact clean_takeNumeral negative s b broken

/-! ## All tokens -/

theorem clean_takeWord {token : Token} (clean : token.Clean) (letters s : List UInt8) :
    (takeWord token letters s).1.Clean := by
  fun_induction takeWord token letters s with
  | case1 => exact clean
  | case3 => assumption
  | _ => exact Break.clean_syntactic rfl rfl

/-- A token has its faults on one line, whatever byte it begins with. -/
theorem clean_take (b : UInt8) (rest : List UInt8) : (take b rest).1.Clean := by
  fun_cases take b rest with
  | case7 => exact clean_takeText rest
  | case8 | case9 | case10 =>
    refine clean_takeWord ?_ _ rest
    trivial
  | case11 | case12 => exact clean_takeNumber _ _
  | _ => trivial

/-- So has every token of a text. -/
theorem clean_scan (steps : Nat) (s : List UInt8) : ∀ t ∈ scan steps s, t.Clean := by
  fun_induction scan steps s with
  | case1 | case2 => exact List.forall_mem_nil _
  | case3 steps s b rest _ t rest' taken ih =>
    refine List.forall_mem_cons.2 ⟨?_, ih⟩
    have clean := clean_take b rest
    rwa [taken] at clean

/-- Every token of a payload has its faults on one line. -/
theorem clean_ofBytes (s : List UInt8) : ∀ t ∈ ofBytes s, t.Clean := clean_scan _ s

end Token

namespace Document

/-! ## Documents part way through -/

def Open.Clean : Open → Prop
  | .array items => ∀ d ∈ items, d.Clean
  | .object members key => (∀ m ∈ members, CleanIn m.1 ∧ m.2.Clean) ∧ CleanIn key

/-- Every fault met so far has its wording on one line. -/
def State.Clean : State → Prop
  | .reading _ opened => ∀ o ∈ opened, o.Clean
  | .done d _ => d.Clean

variable {d : Document} {b : Break} {o : Open} {opened : List Open} {t : Token}

/-- A list or object that is closed has the faults of what it holds and of its ending. -/
theorem Open.Clean.close (clean : o.Clean) (outer : Nat) {e : Ending} (last : e.Clean) :
    (o.close outer e).Clean := by
  cases o with
  | array items => exact .array (fun d member => clean d (List.mem_reverse.1 member)) last
  | object members key =>
    exact .object (fun m member => (clean.1 m (List.mem_reverse.1 member)).1)
      (fun m member => (clean.1 m (List.mem_reverse.1 member)).2) last

/-- A part that is put into an open list or object brings no other fault with it. -/
theorem Open.Clean.put (clean : o.Clean) (found : d.Clean) : (o.put d).Clean := by
  cases o with
  | array items => exact List.forall_mem_cons.2 ⟨found, clean⟩
  | object members key => exact ⟨List.forall_mem_cons.2 ⟨⟨clean.2, found⟩, clean.1⟩, clean.2⟩

/-- A document that is complete goes into the innermost open one. -/
theorem clean_put (found : d.Clean) (around : ∀ o ∈ opened, o.Clean) : (put d opened).Clean := by
  cases opened with
  | nil => exact found
  | cons o outer =>
    obtain ⟨here, around⟩ := List.forall_mem_cons.1 around
    exact List.forall_mem_cons.2 ⟨here.put found, around⟩

/-- A break closes all that is open, with one fault at the end of each. -/
theorem clean_putBroken (last : b.Clean) (found : d.Clean) (around : ∀ o ∈ opened, o.Clean) :
    (putBroken b d opened).Clean := by
  induction opened generalizing d with
  | nil => exact found
  | cons o outer ih =>
    obtain ⟨here, around⟩ := List.forall_mem_cons.1 around
    exact ih ((here.put found).close _ last) around

/-- A value that breaks off takes all that is open with it. -/
theorem clean_breakValue (last : b.Clean) (around : ∀ o ∈ opened, o.Clean) :
    (breakValue b opened).Clean := clean_putBroken last (.broken last) around

/-- So does an item or a member that breaks off. -/
theorem clean_breakPart (last : b.Clean) (around : ∀ o ∈ opened, o.Clean) :
    (breakPart b opened).Clean := by
  cases opened with
  | nil => exact .broken last
  | cons o outer =>
    obtain ⟨here, around⟩ := List.forall_mem_cons.1 around
    exact clean_putBroken last (here.close _ last) around

/-- A closing bracket ends the innermost of what is open. -/
theorem clean_closeInnermost (around : ∀ o ∈ opened, o.Clean) : (closeInnermost opened).Clean := by
  cases opened with
  | nil => exact .broken (Break.clean_syntactic rfl rfl)
  | cons o outer =>
    obtain ⟨here, around⟩ := List.forall_mem_cons.1 around
    exact clean_put (here.close _ trivial) around

/-- One token in place of a value. -/
theorem clean_stepValue (clean : t.Clean) (around : ∀ o ∈ opened, o.Clean) :
    (stepValue opened t).Clean := by
  cases t with
  | openArray => exact List.forall_mem_cons.2 ⟨List.forall_mem_nil _, around⟩
  | openObject => exact List.forall_mem_cons.2 ⟨⟨List.forall_mem_nil _, .ok _⟩, around⟩
  | null => exact clean_put .null around
  | bool b => exact clean_put (.bool b) around
  | number n => exact clean_put (.number clean) around
  | text s => exact clean_put (.text clean) around
  | broken b => exact clean_breakValue clean around
  | closeArray | closeObject | comma | colon | stray =>
    exact clean_breakValue (Break.clean_syntactic rfl rfl) around

/-- One token in place of a comma or a closing bracket. -/
theorem clean_stepSeparator (around : ∀ o ∈ opened, o.Clean) : (stepSeparator opened t).Clean := by
  unfold stepSeparator
  split
  · exact Document.Clean.null
  · exact around
  · exact clean_closeInnermost around
  · exact clean_breakPart (Break.clean_syntactic rfl rfl) around
  · exact around
  · exact clean_closeInnermost around
  · exact clean_breakPart (Break.clean_syntactic rfl rfl) around

/-- One token in place of a key. -/
theorem clean_stepKey (first : Bool) (clean : t.Clean) (around : ∀ o ∈ opened, o.Clean) :
    (stepKey first opened t).Clean := by
  unfold stepKey
  split
  · obtain ⟨here, around⟩ := List.forall_mem_cons.1 around
    exact List.forall_mem_cons.2 ⟨⟨here.1, clean⟩, around⟩
  · split
    · exact clean_closeInnermost around
    · exact clean_breakPart (Break.clean_syntactic rfl rfl) around
  · split
    -- a broken text keeps its own faults
    · exact clean_breakPart clean around
    · exact clean_breakPart clean around
    · exact clean_breakPart clean around
    · exact clean_breakPart (Break.clean_syntactic rfl rfl) around
  · exact clean_breakPart (Break.clean_syntactic rfl rfl) around

/-- One token brings no fault but its own and those of syntax. -/
theorem clean_step {state : State} (clean : state.Clean) (next : t.Clean) : (step state t).Clean := by
  unfold step
  split
  · exact clean
  · exact clean_stepValue next clean
  · exact clean_closeInnermost clean
  · exact clean_breakPart (Break.clean_syntactic rfl rfl) clean
  · exact clean_stepValue next clean
  · exact clean_stepKey _ next clean
  · exact clean
  · exact clean_breakValue (Break.clean_syntactic rfl rfl) clean
  · exact clean_stepSeparator clean

/-- Nor do all tokens together. -/
theorem clean_foldl_step {ts : List Token} {state : State} (clean : state.Clean)
    (each : ∀ t ∈ ts, t.Clean) : (ts.foldl step state).Clean := by
  induction ts generalizing state with
  | nil => exact clean
  | cons t ts ih =>
    obtain ⟨next, each⟩ := List.forall_mem_cons.1 each
    exact ih (clean_step clean next) each

/-- What is left once the text has ended. -/
theorem clean_settled {state : State} (clean : state.Clean) :
    (match state with
      | .done d surplus => (d, surplus)
      | .reading _ _ => (.broken (.both .endInValue), false)).1.Clean := by
  cases state with
  | done d surplus => exact clean
  | reading awaited opened => exact .broken (Break.clean_syntactic rfl rfl)

/-- What is still open at the end is broken off with faults of syntax. -/
theorem clean_finish {state : State} (clean : state.Clean) : (finish state).1.Clean := by
  cases state with
  | done d surplus => exact clean
  | reading awaited opened =>
    refine clean_settled ?_
    split
    · exact clean_breakValue (Break.clean_syntactic rfl rfl) clean
    · exact clean_breakPart (Break.clean_syntactic rfl rfl) clean
    · exact clean_breakPart (Break.clean_syntactic rfl rfl) clean
    · exact clean_breakPart (Break.clean_syntactic rfl rfl) clean
    · exact clean_breakPart (Break.clean_syntactic rfl rfl) clean
    · exact clean_breakValue (Break.clean_syntactic rfl rfl) clean
    · exact clean_breakPart (Break.clean_syntactic rfl rfl) clean
    · exact clean_breakPart (Break.clean_syntactic rfl rfl) clean

/-- The document of a text. -/
theorem clean_ofBytes (s : List UInt8) : (ofBytes s).1.Clean :=
  clean_finish (clean_foldl_step (List.forall_mem_nil _) (Token.clean_ofBytes s))

mutual

/-- A value that was never text holds no fault at all. -/
theorem clean_ofValue (v : Value) : (ofValue v).Clean := by
  match v with
  | .null => exact .null
  | .bool b => exact .bool b
  | .number n => exact .number (.ok n)
  | .text s => exact .text (.ok s)
  | .array items => exact .array (clean_ofItems items) trivial
  | .object members =>
    exact .object (fun m member => (clean_ofMembers members m member).1)
      (fun m member => (clean_ofMembers members m member).2) trivial

theorem clean_ofItems (vs : List Value) : ∀ d ∈ ofItems vs, d.Clean := by
  match vs with
  | [] => exact List.forall_mem_nil _
  | v :: vs => exact List.forall_mem_cons.2 ⟨clean_ofValue v, clean_ofItems vs⟩

theorem clean_ofMembers (members : List (String × Value)) :
    ∀ m ∈ ofMembers members, CleanIn m.1 ∧ m.2.Clean := by
  match members with
  | [] => exact List.forall_mem_nil _
  | (k, v) :: members =>
    exact List.forall_mem_cons.2 ⟨⟨.ok k, clean_ofValue v⟩, clean_ofMembers members⟩

end

end Document

/-! ## Reading -/

namespace Reader.Fair

variable {α : Type} {r : Reader α}

/-- A fair reader refuses every payload on one line. -/
theorem ofBytes (fair : r.Fair) (s : List UInt8) : CleanIn (r.ofBytes s) := by
  exact (fair.clean (Document.clean_ofBytes s)).bind fun a =>
    .ite (Fault.clean_of_isSyntax rfl) a

/-- A fair reader refuses every text on one line. -/
theorem ofText (fair : r.Fair) (s : String) : CleanIn (r.ofText s) := fair.ofBytes _

/-- A fair reader refuses every value on one line. -/
theorem ofValue (fair : r.Fair) (v : Value) : CleanIn (r.ofValue v) :=
  fair.clean (Document.clean_ofValue v)

end Reader.Fair

end ResourceTree.Json
