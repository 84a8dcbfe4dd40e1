import ResourceTree.Resource.Log

/-!
# What is left of a text without its escape sequences

A text made of plain chunks and whole escape sequences keeps its chunks and nothing else. Of any text
at all, unfinished sequences included, characters are left in their order, none of them the escape
character, so that there is nothing to strip a second time.
-/

namespace ResourceTree.LogLine
set_option autoImplicit false

/-- A character that ends a control sequence. -/
def IsFinal (c : Char) : Prop := '@' ≤ c ∧ c ≤ '~'

instance (c : Char) : Decidable (IsFinal c) := inferInstanceAs (Decidable (_ ∧ _))

instance (cs : List Char) : Decidable (∀ c ∈ cs, c ≠ escapeChar ∧ ¬ IsFinal c) :=
  List.decidableBAll _ cs

instance (cs : List Char) : Decidable (∀ c ∈ cs, c ≠ bell ∧ c ≠ escapeChar) :=
  List.decidableBAll _ cs

/-- How a command string ends. -/
inductive Terminator where
  | bell
  | backslash

def Terminator.chars : Terminator → List Char
  | bell => [LogLine.bell]
  | backslash => [escapeChar, '\\']

/-- A part of a text: plain characters, or one whole escape sequence. -/
inductive Piece where
  | chunk (cs : List Char) (clean : escapeChar ∉ cs)
  | control (parameters : List Char) (final : Char)
    (inner : ∀ c ∈ parameters, c ≠ escapeChar ∧ ¬ IsFinal c) (last : IsFinal final)
  | command (payload : List Char) (ending : Terminator)
    (inner : ∀ c ∈ payload, c ≠ bell ∧ c ≠ escapeChar)
  /-- The escape character and one that opens no longer sequence. -/
  | short (c : Char) (other : c ≠ '[' ∧ c ≠ ']')

namespace Piece

/-- A piece as it stands in a text. -/
def chars : Piece → List Char
  | chunk cs _ => cs
  | control parameters final _ _ => escapeChar :: '[' :: (parameters ++ [final])
  | command payload ending _ => escapeChar :: ']' :: (payload ++ ending.chars)
  | short c _ => [escapeChar, c]

/-- What is to be left of a piece. -/
def shown : Piece → List Char
  | chunk cs _ => cs
  | _ => []

end Piece

/-! ## The reader in each of its states -/

theorem stripFrom_nil (state : Escape) : stripFrom state [] = [] := by
  cases state <;> rfl

/-- Text without an escape character is shown as it is. -/
theorem stripFrom_chunk {cs : List Char} (clean : escapeChar ∉ cs) (rest : List Char) :
    stripFrom .plain (cs ++ rest) = cs ++ stripFrom .plain rest := by
  induction cs with
  | nil => rfl
  | cons c cs ih =>
    obtain ⟨other, clean⟩ := not_or.1 (mt List.mem_cons.2 clean)
    rw [List.cons_append, stripFrom, if_neg (Ne.symm other), ih clean, List.cons_append]

/-- A control sequence is passed over up to its final character. -/
theorem stripFrom_control {parameters : List Char} {final : Char}
    (inner : ∀ c ∈ parameters, c ≠ escapeChar ∧ ¬ IsFinal c) (last : IsFinal final)
    (rest : List Char) :
    stripFrom .control (parameters ++ final :: rest) = stripFrom .plain rest := by
  induction parameters with
  | nil => exact if_pos last
  | cons c parameters ih =>
    have within := (inner c List.mem_cons_self).2
    exact (if_neg within).trans (ih fun c member => inner c (List.mem_cons_of_mem _ member))

/-- The last character of a text is read without one behind it. -/
theorem stripFrom_bell (rest : List Char) :
    stripFrom .command (bell :: rest) = stripFrom .plain rest := by
  cases rest with
  | nil => rfl
  | cons next rest => exact if_pos rfl

/-- A character of a command string is passed over. -/
theorem stripFrom_payload {c : Char} (other : c ≠ bell ∧ c ≠ escapeChar) (rest : List Char) :
    stripFrom .command (c :: rest) = stripFrom .command rest := by
  cases rest with
  | nil => rfl
  | cons next rest => rw [stripFrom, if_neg other.1, if_neg fun escape => other.2 escape.1]

/-- A command string is passed over, whichever way it ends. -/
theorem stripFrom_command {payload : List Char} (inner : ∀ c ∈ payload, c ≠ bell ∧ c ≠ escapeChar)
    (ending : Terminator) (rest : List Char) :
    stripFrom .command (payload ++ (ending.chars ++ rest)) = stripFrom .plain rest := by
  induction payload with
  | nil =>
    cases ending with
    | bell => exact stripFrom_bell rest
    | backslash => rfl
  | cons c payload ih =>
    rw [List.cons_append, stripFrom_payload (inner c List.mem_cons_self)]
    exact ih fun c member => inner c (List.mem_cons_of_mem _ member)

/-- A piece in front of any text leaves what it is to leave, and the reader in plain text. -/
theorem stripFrom_piece (p : Piece) (rest : List Char) :
    stripFrom .plain (p.chars ++ rest) = p.shown ++ stripFrom .plain rest := by
  cases p with
  | chunk cs clean => exact stripFrom_chunk clean rest
  | control parameters final inner last =>
    rw [Piece.chars, List.cons_append, List.cons_append, List.append_assoc]
    exact stripFrom_control inner last rest
  | command payload ending inner =>
    rw [Piece.chars, List.cons_append, List.cons_append, List.append_assoc]
    exact stripFrom_command inner ending rest
  | short c other =>
    rw [Piece.chars, List.cons_append, stripFrom, if_pos rfl, List.singleton_append, stripFrom,
      if_neg other.1, if_neg other.2]
    rfl

/-- The pieces of a text are read one after the other. -/
theorem stripFrom_pieces (pieces : List Piece) :
    stripFrom .plain (pieces.flatMap Piece.chars) = pieces.flatMap Piece.shown := by
  induction pieces with
  | nil => rfl
  | cons p pieces ih => rw [List.flatMap_cons, List.flatMap_cons, stripFrom_piece, ih]

/-! ## Any text -/

/-- What is shown of a text are characters of it, in order. -/
theorem stripFrom_sublist (state : Escape) (cs : List Char) : (stripFrom state cs).Sublist cs := by
  fun_induction stripFrom state cs with
  | case1 => exact List.nil_sublist _
  | case3 c rest other ih => exact ih.cons_cons c
  | case9 => exact List.nil_sublist _
  | case11 c next rest other ends ih => exact (ih.cons next).cons c
  | _ => rename_i ih; exact ih.cons _

/-- An escape character is never shown. -/
theorem escape_notMem_stripFrom (state : Escape) (cs : List Char) :
    escapeChar ∉ stripFrom state cs := by
  fun_induction stripFrom state cs with
  | case1 => exact List.not_mem_nil
  | case3 c rest other ih => exact List.not_mem_cons_of_ne_of_not_mem (Ne.symm other) ih
  | case9 => exact List.not_mem_nil
  | _ => assumption

/-- A text without escape characters is shown as it is. -/
theorem strip_of_clean {s : String} (clean : escapeChar ∉ s.toList) : strip s = s := by
  have whole := stripFrom_chunk clean []
  rw [List.append_nil, stripFrom_nil, List.append_nil] at whole
  rw [strip, whole, String.ofList_toList]

/-- The plain text of a line has no escape character, is what is left of the text when characters are
taken away, is the text itself where there is nothing to strip, and has nothing left to strip. Of a
text made of chunks and whole sequences it is the chunks. -/
theorem plainText_eq_chunks (line : LogLine) :
    escapeChar ∉ line.plainText.toList ∧
    line.plainText.toList.Sublist line.text.toList ∧
    (escapeChar ∉ line.text.toList → line.plainText = line.text) ∧
    { line with text := line.plainText }.plainText = line.plainText ∧
    ∀ pieces : List Piece, line.text.toList = pieces.flatMap Piece.chars →
      line.plainText.toList = pieces.flatMap Piece.shown := by
  have left : line.plainText.toList = stripFrom .plain line.text.toList := String.toList_ofList
  have clean : escapeChar ∉ line.plainText.toList := by
    rw [left]
    exact escape_notMem_stripFrom .plain _
  refine ⟨clean, ?_, strip_of_clean, strip_of_clean clean, fun pieces made => ?_⟩
  · rw [left]
    exact stripFrom_sublist .plain _
  · rw [left, made, stripFrom_pieces]

/-- A link, a colour and a short sequence, with an escape character behind another one. -/
def colouredPieces : List Piece :=
  [.chunk "see ".toList (by decide), .command "8;;u".toList .backslash (by decide),
    .chunk "docs".toList (by decide), .command [] .bell (by decide),
    .control "1;31".toList 'm' (by decide) (by decide), .short escapeChar (by decide),
    .chunk "[ now".toList (by decide)]

def coloured : LogLine :=
  { timestamp := { year := 2025, month := 1, day := 1, second := 0, nanos := 0 }
    container := "app"
    text := "see \x1b]8;;u\x1b\\docs\x1b]\x07\x1b[1;31m\x1b\x1b[ now" }

/-- What is left of the line has no escape character, and stays as it is. -/
theorem plainText_eq_chunks_coloured :
    coloured.text.toList = colouredPieces.flatMap Piece.chars ∧
      coloured.plainText.toList = colouredPieces.flatMap Piece.shown ∧
      escapeChar ∉ { coloured with text := "see docs[ now" }.text.toList ∧
      { coloured with text := "see docs[ now" }.plainText = "see docs[ now" := by
  have made : coloured.text.toList = colouredPieces.flatMap Piece.chars := by decide
  have clean : escapeChar ∉ { coloured with text := "see docs[ now" }.text.toList := by decide
  obtain ⟨-, -, -, -, chunks⟩ := plainText_eq_chunks coloured
  obtain ⟨-, -, same, -, -⟩ := plainText_eq_chunks { coloured with text := "see docs[ now" }
  exact ⟨made, chunks colouredPieces made, clean, same clean⟩

end ResourceTree.LogLine
