import ResourceTree.Text.Composed.Pairs

/-!
# Composed text

One letter with marks may be written in several ways. The composed text of them all takes the
letter apart, puts the marks in the order of their classes, and joins what can be written as one
character. Syllables of Hangul are composed by arithmetic.
-/

namespace ResourceTree.Text.Composed
set_option autoImplicit false

/-- The class of a mark; zero where a character stands on its own. -/
def markClass (c : Char) : Nat :=
  match classRuns.rowAt? c.toNat with
  | some (_, k :: _) => k
  | _ => 0

/-- The letters of a syllable of Hangul: two, or three. -/
def syllableLetters? (c : Char) : Option (List Char) :=
  let n := c.toNat
  if n < 0xAC00 || 0xD7A3 < n then none
  else
    let place := n - 0xAC00
    let tail := place % 28
    some ([Char.ofNat (0x1100 + place / 588), Char.ofNat (0x1161 + place % 588 / 28)]
      ++ if tail = 0 then [] else [Char.ofNat (0x11A7 + tail)])

/-- The parts of a character, at most `depth` times over. -/
def parts : Nat → Char → List Char
  | 0, c => [c]
  | depth + 1, c =>
    match syllableLetters? c, pairs.rowAt? c.toNat with
    | some letters, _ => letters
    | _, some (0, [first, second]) => parts depth (Char.ofNat first) ++ [Char.ofNat second]
    | _, _ => [c]

/-- Adds a character behind others, the last first: a mark goes before the marks of higher
classes. -/
def putInOrder (c : Char) : List Char → List Char
  | [] => [c]
  | last :: before =>
    if 0 < markClass c && markClass c < markClass last then last :: putInOrder c before
    else c :: last :: before

/-- The parts of a text, with marks in order. No composite is deeper than four. -/
def decompose (s : List Char) : List Char :=
  ((s.flatMap (parts 4)).foldl (fun done c => putInOrder c done) []).reverse

/-- The composites by their parts. -/
def composites : List (Nat × Nat × Nat) :=
  (pairs.starts.zip pairs.rests).toList.filterMap fun (composite, rest) =>
    match rest with
    | [first, second] => some (second, first, composite)
    | _ => none

/-- A letter of Hangul with the next one, or a syllable with its last letter. -/
def syllable? (first second : Nat) : Option Nat :=
  if 0x1100 ≤ first && first < 0x1113 && 0x1161 ≤ second && second < 0x1176 then
    some (0xAC00 + (first - 0x1100) * 588 + (second - 0x1161) * 28)
  else if 0xAC00 ≤ first && first ≤ 0xD7A3 && (first - 0xAC00) % 28 = 0
      && 0x11A7 < second && second < 0x11C3 then
    some (first + (second - 0x11A7))
  else none

/-- The one character for two. -/
def join? (first second : Char) : Option Char :=
  let composite := (syllable? first.toNat second.toNat).orElse fun _ =>
    (composites.find? fun (s, f, _) => s = second.toNat && f = first.toNat).map (·.2.2)
  composite.map Char.ofNat

/-- A text part way through its composition, each part with the last character first: what is
done, the letter that may still take marks, and the marks behind it. -/
structure Progress where
  done : List Char := []
  letter : Option Char := none
  marks : List Char := []

/-- All of the text so far. -/
def Progress.text (p : Progress) : List Char := p.marks ++ p.letter.toList ++ p.done

/-- One more character. It joins the letter unless a mark of its class, or of a higher one, stands
between them. -/
def Progress.take (p : Progress) (c : Char) : Progress :=
  let isNear := match p.marks with
    | [] => true
    | mark :: _ => markClass mark < markClass c
  match if isNear then p.letter.bind (join? · c) else none with
  | some composite => { p with letter := some composite }
  | none =>
    if markClass c = 0 then { done := p.text, letter := some c }
    else { p with marks := c :: p.marks }

/-- The composed text. -/
def compose (s : List Char) : List Char :=
  ((decompose s).foldl Progress.take {}).text.reverse

end ResourceTree.Text.Composed
