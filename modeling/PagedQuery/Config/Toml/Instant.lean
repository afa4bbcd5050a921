import PagedQuery.Text.Digits

/-!
Dates and times of TOML. As settings they are texts in one form: a `T` between date and time, `Z`
or hours and minutes as the distance from universal time, and no zeros at the end of a fraction.
-/

namespace PagedQuery.Toml

/-- A number of `width` digits from `low` to `high` in front, and the rest. -/
def readPlaces? (width low high : Nat) (cs : List Char) : Option (Nat × List Char) :=
  if (cs.take width).length < width then none
  else
    ((Text.readDigits? (cs.take width)).filter fun n => low ≤ n && n ≤ high).map fun n =>
      (n, cs.drop width)

/-- The rest behind a mark in front. -/
def afterMark? (mark : Char) : List Char → Option (List Char)
  | c :: cs => if c = mark then some cs else none
  | [] => none

def daysInMonth (year month : Nat) : Nat :=
  if month = 2 then
    if year % 4 = 0 && (year % 100 ≠ 0 || year % 400 = 0) then 29 else 28
  else if [4, 6, 9, 11].contains month then 30
  else 31

/-- A date in front, as it is written, and the rest. -/
def readDate? (cs : List Char) : Option (String × List Char) := do
  let (year, cs) ← readPlaces? 4 0 9999 cs
  let (month, cs) ← readPlaces? 2 1 12 (← afterMark? '-' cs)
  let (day, cs) ← readPlaces? 2 1 (daysInMonth year month) (← afterMark? '-' cs)
  some (s!"{Text.padded 4 year}-{Text.padded 2 month}-{Text.padded 2 day}", cs)

/-- The digits behind a point in front, and the rest; none if there is no fraction. -/
def readFraction : List Char → List Char × List Char
  | '.' :: cs =>
    let ds := cs.takeWhile Char.isDigit
    if ds.isEmpty then ([], '.' :: cs) else (ds, cs.dropWhile Char.isDigit)
  | cs => ([], cs)

/-- A fraction as it is written: its first nine digits without zeros at the end, behind a point
unless none is left. -/
def fractionText (ds : List Char) : String :=
  let shown := ((ds.take 9).reverse.dropWhile (· = '0')).reverse
  if shown.isEmpty then "" else String.ofList ('.' :: shown)

/-- A time of day in front, as it is written, and the rest. -/
def readTime? (cs : List Char) : Option (String × List Char) := do
  let (hour, cs) ← readPlaces? 2 0 23 cs
  let (minute, cs) ← readPlaces? 2 0 59 (← afterMark? ':' cs)
  let (second, cs) ← readPlaces? 2 0 60 (← afterMark? ':' cs)
  let (fraction, cs) := readFraction cs
  let clock := s!"{Text.padded 2 hour}:{Text.padded 2 minute}:{Text.padded 2 second}"
  some (clock ++ fractionText fraction, cs)

/-- The distance from universal time in front, as it is written, and the rest. -/
def readOffset? : List Char → Option (String × List Char)
  | [] => none
  | c :: cs =>
    if c = 'Z' || c = 'z' then some ("Z", cs)
    else if c = '+' || c = '-' then do
      let (hours, cs) ← readPlaces? 2 0 23 cs
      let (minutes, cs) ← readPlaces? 2 0 59 (← afterMark? ':' cs)
      let sign := if c = '-' && hours + minutes ≠ 0 then "-" else "+"
      some (s!"{sign}{Text.padded 2 hours}:{Text.padded 2 minutes}", cs)
    else none

def isTimeMark (c : Char) : Bool := c = 'T' || c = 't' || c = ' '

/-- The time behind a date, as it is written, and the rest. A plus or minus sign behind the time
begins a distance from universal time. -/
def readDayTime? : List Char → Option (String × List Char)
  | [] => none
  | mark :: cs =>
    if !isTimeMark mark then none
    else do
      let (time, rest) ← readTime? cs
      match readOffset? rest with
      | some (offset, rest) => some (s!"T{time}{offset}", rest)
      | none => some (s!"T{time}", rest)

/-- A date, a time, or a date with a time in front, as it is written, and the rest. -/
def readInstant? (cs : List Char) : Option (String × List Char) :=
  match readDate? cs with
  | some (date, rest) =>
    match readDayTime? rest with
    | some (time, rest) => some (date ++ time, rest)
    | none => some (date, rest)
  | none => readTime? cs

end PagedQuery.Toml
