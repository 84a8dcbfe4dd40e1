/-!
# Instants

Points in time as UTC calendar fields, read from and written in the Internet date and time format
(`2025-01-31T12:00:00.5+01:00`). Reading accepts any offset below a day and moves the fields to
UTC; writing uses the letter `Z` and the shortest of zero, three, six or nine fractional digits
that loses nothing. A leap second is the last second of a minute with at least a thousand million
nanoseconds.
-/

namespace ResourceTree
set_option autoImplicit false

/-- A point in time in UTC. -/
structure Instant where
  year : Int
  month : Nat
  day : Nat
  /-- Seconds since midnight. -/
  second : Nat
  /-- Nanoseconds of the second; from a thousand million on within a leap second. -/
  nanos : Nat
  deriving DecidableEq, Repr

namespace Instant

/-- The start of the year 1970. -/
def epoch : Instant := { year := 1970, month := 1, day := 1, second := 0, nanos := 0 }

/-- A number that grows with time: the fields in order of weight. -/
def rank (t : Instant) : Int :=
  (((t.year * 16 + t.month) * 32 + t.day) * 86400 + t.second) * 2000000000 + t.nanos

/-- Whether a year has a twenty-ninth of February. -/
def isLeapYear (year : Int) : Bool :=
  year % 4 = 0 && (year % 100 != 0 || year % 400 = 0)

/-- The number of days of a month. -/
def daysIn (year : Int) (month : Nat) : Nat :=
  if month = 2 then (if isLeapYear year then 29 else 28)
  else if month = 4 || month = 6 || month = 9 || month = 11 then 30
  else 31

/-- The same time of the following day. -/
def nextDay (t : Instant) : Instant :=
  if t.day < daysIn t.year t.month then { t with day := t.day + 1 }
  else if t.month < 12 then { t with month := t.month + 1, day := 1 }
  else { t with year := t.year + 1, month := 1, day := 1 }

/-- The same time of the day before. -/
def previousDay (t : Instant) : Instant :=
  if 1 < t.day then { t with day := t.day - 1 }
  else if 1 < t.month then
    { t with month := t.month - 1, day := daysIn t.year (t.month - 1) }
  else { t with year := t.year - 1, month := 12, day := 31 }

/-- Clock fields that are `minutes` ahead of UTC, moved to UTC; `minutes` is below a day. -/
def shiftBack (minutes : Int) (t : Instant) : Instant :=
  let second : Int := t.second - minutes * 60
  if second < 0 then { t.previousDay with second := (second + 86400).toNat }
  else if 86400 ≤ second then { t.nextDay with second := (second - 86400).toNat }
  else { t with second := second.toNat }

/-- The value of a decimal digit. -/
def digit? (c : Char) : Option Nat :=
  if '0' ≤ c ∧ c ≤ '9' then some (c.toNat - '0'.toNat) else none

/-- A number of exactly `count` digits, and what follows. -/
def digits? (count : Nat) (s : List Char) : Option (Nat × List Char) :=
  let taken := s.take count
  if taken.length = count then do
    let ds ← taken.mapM digit?
    return (ds.foldl (fun n d => n * 10 + d) 0, s.drop count)
  else none

/-- The given character, and what follows it. -/
def char? (c : Char) : List Char → Option (List Char)
  | d :: rest => if d = c then some rest else none
  | [] => none

/-- A fraction of a second from its point on, in nanoseconds; digits past the ninth are passed
over. -/
def fraction? : List Char → Option (Nat × List Char)
  | '.' :: rest =>
    let ds := rest.takeWhile Char.isDigit
    if ds.isEmpty then none
    else
      let nine := (ds ++ List.replicate 9 '0').take 9
      some (nine.foldl (fun n c => n * 10 + (c.toNat - '0'.toNat)) 0, rest.dropWhile Char.isDigit)
  | rest => some (0, rest)

/-- An offset from UTC in minutes: a letter `Z`, or a sign with hours and minutes. -/
def offset? : List Char → Option (Int × List Char)
  | 'Z' :: rest => some (0, rest)
  | 'z' :: rest => some (0, rest)
  | sign :: rest => do
    let negative ←
      if sign = '+' then some false
      else if sign = '-' || sign = '−' then some true
      else none
    let (hours, rest) ← digits? 2 rest
    let rest ← char? ':' rest
    let (minutes, rest) ← digits? 2 rest
    if hours < 24 ∧ minutes < 60 then
      let ahead : Int := hours * 60 + minutes
      some (if negative then -ahead else ahead, rest)
    else none
  | [] => none

/-- The separator of date and time, and what follows it. -/
def separator? : List Char → Option (List Char)
  | c :: rest => if c = 'T' ∨ c = 't' ∨ c = ' ' then some rest else none
  | [] => none

/-- Reads an instant from characters. -/
def ofChars? (s : List Char) : Option Instant := do
  let (year, s) ← digits? 4 s
  let s ← char? '-' s
  let (month, s) ← digits? 2 s
  let s ← char? '-' s
  let (day, s) ← digits? 2 s
  let s ← separator? s
  let (hour, s) ← digits? 2 s
  let s ← char? ':' s
  let (minute, s) ← digits? 2 s
  let s ← char? ':' s
  let (second, s) ← digits? 2 s
  let (nanos, s) ← fraction? s
  let (ahead, s) ← offset? s
  if s.isEmpty && 1 ≤ month && month ≤ 12 && 1 ≤ day && day ≤ daysIn year month
      && hour < 24 && minute < 60 && second ≤ 60 then
    let leap := second = 60
    return shiftBack ahead
      { year, month, day
        second := hour * 3600 + minute * 60 + (if leap then 59 else second)
        nanos := nanos + if leap then 1000000000 else 0 }
  else none

/-- Reads an instant. -/
def ofText? (s : String) : Option Instant := ofChars? s.toList

/-- A number padded with zeros to at least `width` digits. -/
def padded (width n : Nat) : List Char :=
  let ds := Nat.toDigits 10 n
  List.replicate (width - ds.length) '0' ++ ds

/-- A year: four digits, or a sign and at least four digits outside 0 to 9999. -/
def yearChars (year : Int) : List Char :=
  if 0 ≤ year && year ≤ 9999 then padded 4 year.toNat
  else (if year < 0 then '-' else '+') :: padded 4 year.natAbs

/-- A fraction of a second with its point, or nothing. -/
def fractionChars (nanos : Nat) : List Char :=
  if nanos = 0 then []
  else if nanos % 1000000 = 0 then '.' :: padded 3 (nanos / 1000000)
  else if nanos % 1000 = 0 then '.' :: padded 6 (nanos / 1000)
  else '.' :: padded 9 nanos

def toChars (t : Instant) : List Char :=
  let leap := 1000000000 ≤ t.nanos
  let second := t.second % 60 + if leap then 1 else 0
  yearChars t.year ++ ['-'] ++ padded 2 t.month ++ ['-'] ++ padded 2 t.day ++ ['T']
    ++ padded 2 (t.second / 3600) ++ [':'] ++ padded 2 (t.second / 60 % 60) ++ [':']
    ++ padded 2 second ++ fractionChars (t.nanos % 1000000000) ++ ['Z']

/-- The text of an instant. -/
def toText (t : Instant) : String := String.ofList t.toChars

end Instant

end ResourceTree
