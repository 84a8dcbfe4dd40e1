/-!
# Labels of domain names in ASCII

A label of any characters spelled in letters, digits and hyphens: its ASCII characters first, then
the others in the order of their code points, each as the distance from the one before in a number
whose digits weigh less the farther they stand.
-/

namespace ResourceTree.Url.Punycode
set_option autoImplicit false

/-- The code point from which distances are counted. -/
def start : Nat := 128

def startBias : Nat := 72

/-- The digit where a number ends, by the place of the digit. -/
def threshold (bias place : Nat) : Nat :=
  if place ≤ bias then 1 else if bias + 26 ≤ place then 26 else place - bias

theorem threshold_pos (bias place : Nat) : 0 < threshold bias place := by
  unfold threshold; split <;> (try split) <;> omega

theorem threshold_le (bias place : Nat) : threshold bias place ≤ 26 := by
  unfold threshold; split <;> (try split) <;> omega

/-- The places that a distance leaves unused, counted in steps. -/
def biasSteps (delta : Nat) (steps : Nat) : Nat :=
  if 455 < delta then biasSteps (delta / 35) (steps + 36)
  else steps + 36 * delta / (delta + 38)
termination_by delta
decreasing_by omega

/-- The bias for the number after a distance. -/
def adapt (delta count : Nat) (first : Bool) : Nat :=
  let delta := if first then delta / 700 else delta / 2
  biasSteps (delta + delta / count) 0

def digitChar (d : Nat) : Char :=
  if d < 26 then Char.ofNat (d + 0x61) else Char.ofNat (d - 26 + 0x30)

def digitValue? (c : Char) : Option Nat :=
  let n := c.toNat
  if 0x61 ≤ n ∧ n ≤ 0x7A then some (n - 0x61)
  else if 0x41 ≤ n ∧ n ≤ 0x5A then some (n - 0x41)
  else if 0x30 ≤ n ∧ n ≤ 0x39 then some (n - 0x30 + 26)
  else none

/-- The digits of a distance. -/
def digits (bias place n : Nat) : List Char :=
  let t := threshold bias place
  if n < t then [digitChar n]
  else digitChar (t + (n - t) % (36 - t)) :: digits bias (place + 36) ((n - t) / (36 - t))
termination_by n
decreasing_by
  have := threshold_pos bias place
  have := threshold_le bias place
  exact Nat.lt_of_le_of_lt (Nat.div_le_self _ _) (by omega)

/-- A label part way through its spelling: digits so far, the number of characters that are
spelled, and the distance since the last of them. -/
structure Spelling where
  text : List Char
  bias : Nat
  delta : Nat
  done : Nat
  first : Bool

/-- One character of the label, while those of one code point are spelled. -/
def Spelling.pass (point : Nat) (s : Spelling) (c : Nat) : Spelling :=
  if c < point then { s with delta := s.delta + 1 }
  else if c = point then
    { text := s.text ++ digits s.bias 36 s.delta
      bias := adapt s.delta (s.done + 1) s.first
      delta := 0, done := s.done + 1, first := false }
  else s

/-- Spells all characters of one code point; `last` is the code point before it. -/
def Spelling.point (label : List Nat) (acc : Spelling × Nat) (point : Nat) : Spelling × Nat :=
  let s := { acc.1 with delta := acc.1.delta + (point - acc.2) * (acc.1.done + 1) }
  let s := label.foldl (Spelling.pass point) s
  ({ s with delta := s.delta + 1 }, point + 1)

/-- The spelling of a label. -/
def encode (label : List Char) : List Char :=
  let basic := label.filter (·.toNat < start)
  let points := ((label.map Char.toNat).filter (start ≤ ·)).mergeSort (· ≤ ·)
  let s : Spelling :=
    { text := if basic.isEmpty then [] else basic ++ ['-']
      bias := startBias, delta := 0, done := basic.length, first := true }
  (points.eraseReps.foldl (Spelling.point (label.map Char.toNat)) (s, start)).1.text

/-- A label part way through its reading: the characters so far, the place and the code point of
the last one, and the number that is being read. -/
structure Reading where
  label : List Char
  next : Nat := 0
  point : Nat := start
  bias : Nat := startBias
  first : Bool := true
  /-- The value so far, the weight of the next digit, and its place. -/
  delta : Nat := 0
  weight : Nat := 1
  place : Nat := 36

/-- What no number of a spelling may reach. -/
def numberLimit : Nat := Nat.pow 2 32

/-- One digit. -/
def Reading.take (r : Reading) (c : Char) : Option Reading := do
  let d ← digitValue? c
  let delta := r.delta + d * r.weight
  let t := threshold r.bias r.place
  if numberLimit ≤ r.next + delta then none
  else if d < t then
    let count := r.label.length + 1
    let sum := r.next + delta
    let point := r.point + sum / count
    if h : point.isValidChar then
      let i := sum % count
      return { label := r.label.take i ++ Char.ofNatAux point h :: r.label.drop i
               next := i + 1, point, bias := adapt delta count r.first, first := false }
    else none
  else if numberLimit ≤ r.weight * (36 - t) then none
  else return { r with delta, weight := r.weight * (36 - t), place := r.place + 36 }

/-- The label that is spelled, if it is. A hyphen stands only behind ASCII characters. -/
def decode (s : List Char) : Option (List Char) := do
  let tail := (s.reverse.takeWhile (· ≠ '-')).reverse
  let head := s.take (s.length - tail.length)
  if head = ['-'] then none
  else
    let r ← tail.foldlM Reading.take { label := head.dropLast }
    if r.weight = 1 then some r.label else none

end ResourceTree.Url.Punycode
