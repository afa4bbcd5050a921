import PagedQuery.Text.Blank
import PagedQuery.Text.Digits
import PagedQuery.Timestamp

/-!
Timestamps as texts: written in the Internet format (RFC 3339) in UTC, read in a relaxed form of it
that allows blanks between the parts and any offset.
-/

namespace PagedQuery.Timestamp

open Text

/-- A year as four digits, or with a sign when it needs more or lies before year 0. -/
def yearText (year : Int) : String :=
  if 0 ≤ year ∧ year ≤ 9999 then padded 4 year.toNat
  else (if year < 0 then "-" else "+") ++ padded 4 year.natAbs

/-- The fraction of a second: none, or the fewest of 3, 6 and 9 digits that are exact. -/
def fractionText (nanos : Nat) : String :=
  if nanos = 0 then ""
  else if nanos % 1000000 = 0 then "." ++ padded 3 (nanos / 1000000)
  else if nanos % 1000 = 0 then "." ++ padded 6 (nanos / 1000)
  else "." ++ padded 9 nanos

/-- The timestamp in the Internet format, in UTC; a leap second is second 60. -/
def text (t : Timestamp) : String :=
  let date := CivilDate.ofDays (t.seconds / 86400)
  let inDay := (t.seconds % 86400).toNat
  let leap := 1000000000 ≤ t.nanos
  let second := inDay % 60 + if leap then 1 else 0
  let nanos := if leap then t.nanos - 1000000000 else t.nanos
  yearText date.year ++ "-" ++ padded 2 date.month ++ "-" ++ padded 2 date.day ++ "T" ++
    padded 2 (inDay / 3600) ++ ":" ++ padded 2 (inDay / 60 % 60) ++ ":" ++ padded 2 second ++
    fractionText nanos ++ "Z"

/-- A number of one to `width` digits in front, and the rest. -/
def readNumber? (width : Nat) (cs : List Char) : Option (Nat × List Char) :=
  let ds := (cs.take width).takeWhile Char.isDigit
  if ds.isEmpty then none else some (digitsValue ds, cs.drop ds.length)

/-- The rest after the character `c`, in front of which blanks may stand. -/
def readMark? (c : Char) (cs : List Char) : Option (List Char) :=
  match trimStart cs with
  | x :: rest => if x = c then some rest else none
  | [] => none

/-- A part of two digits, in front of which blanks may stand. -/
def readPart? (cs : List Char) : Option (Nat × List Char) := readNumber? 2 (trimStart cs)

/-- A year: four digits at most, or any number of digits after a sign. -/
def readYear? (cs : List Char) : Option (Int × List Char) :=
  match trimStart cs with
  | '-' :: rest => (readNumber? rest.length rest).map fun p => (-(p.1 : Int), p.2)
  | '+' :: rest => (readNumber? rest.length rest).map fun p => ((p.1 : Int), p.2)
  | rest => (readNumber? 4 rest).map fun p => ((p.1 : Int), p.2)

/-- A year that a timestamp may lie in. -/
def isYear (year : Int) : Bool := -262143 ≤ year && year ≤ 262142

def readDate? (cs : List Char) : Option (CivilDate × List Char) := do
  let (year, cs) ← readYear? cs
  let cs ← readMark? '-' cs
  let (month, cs) ← readPart? cs
  let cs ← readMark? '-' cs
  let (day, cs) ← readPart? cs
  let date : CivilDate := ⟨year, month, day⟩
  if date.isValid && isYear year then some (date, cs) else none

/-- The mark between date and time: `T` of either case or a space. -/
def readTimeMark? : List Char → Option (List Char)
  | c :: cs => if c = 'T' || c = 't' || c = ' ' then some cs else none
  | [] => none

/-- A fraction of a second in nanoseconds: digits past the ninth are read and dropped. -/
def readFraction? : List Char → Option (Nat × List Char)
  | '.' :: cs =>
    let ds := cs.takeWhile Char.isDigit
    if ds.isEmpty then none
    else some (digitsValue (ds.take 9 ++ List.replicate (9 - ds.length) '0'), cs.drop ds.length)
  | cs => some (0, cs)

/-- Seconds into the day and nanoseconds; second 60 is a leap second. -/
def readTime? (cs : List Char) : Option ((Nat × Nat) × List Char) := do
  let (hour, cs) ← readPart? cs
  let cs ← readMark? ':' cs
  let (minute, cs) ← readPart? cs
  let cs ← readMark? ':' cs
  let (second, cs) ← readPart? cs
  let (nanos, cs) ← readFraction? cs
  if hour < 24 && minute < 60 && second ≤ 60 then
    let leap := if second = 60 then 1000000000 else 0
    some ((hour * 3600 + minute * 60 + min second 59, nanos + leap), cs)
  else none

def twoDigits? : List Char → Option (Nat × List Char)
  | a :: b :: cs => if a.isDigit && b.isDigit then some (digitsValue [a, b], cs) else none
  | _ => none

/-- The sign of an offset; the mathematical minus counts as one. -/
def readOffsetSign? : List Char → Option (Int × List Char)
  | c :: cs =>
    if c = '+' then some (1, cs) else if c = '-' || c = '\u2212' then some (-1, cs) else none
  | [] => none

/-- The offset from UTC in seconds: `Z` or `UTC` in any case, or hours and minutes after a sign,
with colons and blanks between them or not. -/
def readOffset? (cs : List Char) : Option (Int × List Char) :=
  let word := (cs.take 3).map Char.toUpper
  if word = ['U', 'T', 'C'] then some (0, cs.drop 3)
  else if word.head? = some 'Z' then some (0, cs.drop 1)
  else do
    let (sign, cs) ← readOffsetSign? cs
    let (hours, cs) ← twoDigits? cs
    let (minutes, cs) ← twoDigits? (cs.dropWhile fun c => c = ':' || isBlank c)
    if minutes < 60 && hours < 24 then some (sign * (hours * 3600 + minutes * 60), cs) else none

/-- The instant that a text names. Its year must be one in UTC too. -/
def parse? (s : String) : Option Timestamp := do
  let (date, cs) ← readDate? s.toList
  let cs ← readTimeMark? cs
  let ((inDay, nanos), cs) ← readTime? cs
  let (offset, cs) ← readOffset? (trimStart cs)
  let seconds := date.toDays * 86400 + inDay - offset
  if (trimStart cs).isEmpty && isYear (CivilDate.ofDays (seconds / 86400)).year then
    some ⟨seconds, nanos⟩
  else none

end PagedQuery.Timestamp
