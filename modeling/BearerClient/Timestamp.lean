/-!
# Instants

A store remembers when its access token was written, as a text like `2024-01-02T03:04:05Z`. Such a
text gives a day of the calendar, a time of the day and how far that time is ahead of Greenwich; the
instant is always written back in Greenwich time. A fraction keeps nine digits, and a minute may
have a sixty-first second.
-/

namespace BearerClient

/-- An instant in Greenwich time. -/
structure Timestamp where
  /-- The seconds since the start of 1970, an inserted second counting as the one before it. -/
  seconds : Int
  /-- The nanoseconds of the second. -/
  nanos : Nat
  /-- Whether the second is the sixty-first of its minute. -/
  inserted : Bool
  deriving DecidableEq, Repr

namespace Timestamp

/-! ## The calendar -/

/-- The number of days from the first of January 1970 to a day. Years are counted from March, so
that the day inserted in a leap year is the last of its year. -/
def daysOfDate (year : Int) (month day : Nat) : Int :=
  let y := if month ≤ 2 then year - 1 else year
  let era := y / 400
  let yearOfEra := y % 400
  let monthFromMarch : Int := (month + 9 : Nat) % 12
  let dayOfYear := (153 * monthFromMarch + 2) / 5 + day - 1
  let dayOfEra := yearOfEra * 365 + yearOfEra / 4 - yearOfEra / 100 + dayOfYear
  era * 146097 + dayOfEra - 719468

/-- The date of the day that is `days` after the first of January 1970. -/
def dateOfDays (days : Int) : Int × Nat × Nat :=
  let z := days + 719468
  let era := z / 146097
  let dayOfEra := z % 146097
  let yearOfEra := (dayOfEra - dayOfEra / 1460 + dayOfEra / 36524 - dayOfEra / 146096) / 365
  let dayOfYear := dayOfEra - (365 * yearOfEra + yearOfEra / 4 - yearOfEra / 100)
  let monthFromMarch := (5 * dayOfYear + 2) / 153
  let day := dayOfYear - (153 * monthFromMarch + 2) / 5 + 1
  let month := if monthFromMarch < 10 then monthFromMarch + 3 else monthFromMarch - 9
  let year := yearOfEra + era * 400 + (if month ≤ 2 then 1 else 0)
  (year, month.toNat, day.toNat)

/-- Whether the year has a day more. -/
def isLeapYear (year : Nat) : Bool := year % 4 = 0 && (year % 100 ≠ 0 || year % 400 = 0)

/-- The number of days of a month; none of a month that does not exist. -/
def daysInMonth (year month : Nat) : Nat :=
  if month = 2 then (if isLeapYear year then 29 else 28)
  else if [4, 6, 9, 11].contains month then 30
  else if 1 ≤ month && month ≤ 12 then 31
  else 0

/-! ## Reading -/

/-- Reads exactly `count` decimal digits. -/
def readDigits? : Nat → List Char → Option (Nat × List Char)
  | 0, cs => some (0, cs)
  | count + 1, c :: cs => do
    if c.isDigit then
      let (rest, left) ← readDigits? count cs
      some ((c.toNat - '0'.toNat) * Nat.pow 10 count + rest, left)
    else none
  | _ + 1, [] => none

/-- Reads one of the given characters. -/
def readOneOf? (allowed : List Char) : List Char → Option (List Char)
  | c :: cs => if allowed.contains c then some cs else none
  | [] => none

/-- Reads the fraction of a second, if a point follows, as nanoseconds; digits after the ninth do
not count. -/
def readNanos? : List Char → Option (Nat × List Char)
  | '.' :: cs =>
    let digits := cs.takeWhile Char.isDigit
    if digits.isEmpty then none
    else
      let nine := (digits ++ List.replicate 9 '0').take 9
      some (nine.foldl (fun n c => n * 10 + (c.toNat - '0'.toNat)) 0, cs.dropWhile Char.isDigit)
  | cs => some (0, cs)

/-- Reads how many seconds the time is ahead of Greenwich: `Z`, or hours and minutes with a sign,
less than a day. The sign may be a hyphen or a minus. -/
def readOffset? : List Char → Option (Int × List Char)
  | c :: cs =>
    if c = 'Z' ∨ c = 'z' then some (0, cs)
    else if c = '+' ∨ c = '-' ∨ c = '\u2212' then do
      let (hours, cs) ← readDigits? 2 cs
      let cs ← readOneOf? [':'] cs
      let (minutes, cs) ← readDigits? 2 cs
      if 59 < minutes ∨ 23 < hours then none
      else
        let ahead : Int := hours * 3600 + minutes * 60
        some (if c = '+' then ahead else -ahead, cs)
    else none
  | [] => none

/-- Reads an instant. -/
def parse? (text : String) : Option Timestamp := do
  let (year, cs) ← readDigits? 4 text.toList
  let cs ← readOneOf? ['-'] cs
  let (month, cs) ← readDigits? 2 cs
  let cs ← readOneOf? ['-'] cs
  let (day, cs) ← readDigits? 2 cs
  let cs ← readOneOf? ['T', 't', ' '] cs
  let (hour, cs) ← readDigits? 2 cs
  let cs ← readOneOf? [':'] cs
  let (minute, cs) ← readDigits? 2 cs
  let cs ← readOneOf? [':'] cs
  let (second, cs) ← readDigits? 2 cs
  let (nanos, cs) ← readNanos? cs
  let (ahead, cs) ← readOffset? cs
  if day < 1 ∨ daysInMonth year month < day ∨ 23 < hour ∨ 59 < minute ∨ 60 < second ∨ cs ≠ [] then
    none
  else
    let inserted := second = 60
    let time : Int := hour * 3600 + minute * 60 + (if inserted then 59 else second : Nat)
    some ⟨daysOfDate year month day * 86400 + time - ahead, nanos, inserted⟩

/-! ## Writing -/

/-- A natural with at least `width` digits. -/
def padded (width n : Nat) : String :=
  let digits := toString n
  String.ofList (List.replicate (width - digits.length) '0') ++ digits

/-- A year: four digits, or a sign and at least four digits outside the years 0 to 9999. -/
def yearText (year : Int) : String :=
  if 0 ≤ year ∧ year ≤ 9999 then padded 4 year.natAbs
  else (if year < 0 then "-" else "+") ++ padded 4 year.natAbs

/-- A fraction of a second: nothing when it is zero, else three, six or nine digits. -/
def nanosText (nanos : Nat) : String :=
  if nanos = 0 then ""
  else if nanos % 1000000 = 0 then "." ++ padded 3 (nanos / 1000000)
  else if nanos % 1000 = 0 then "." ++ padded 6 (nanos / 1000)
  else "." ++ padded 9 nanos

/-- The text of an instant, in Greenwich time. -/
def text (t : Timestamp) : String :=
  let (year, month, day) := dateOfDays (t.seconds / 86400)
  let time := (t.seconds % 86400).toNat
  let second := time % 60 + (if t.inserted then 1 else 0)
  yearText year ++ "-" ++ padded 2 month ++ "-" ++ padded 2 day ++ "T" ++ padded 2 (time / 3600) ++
    ":" ++ padded 2 (time / 60 % 60) ++ ":" ++ padded 2 second ++ nanosText t.nanos ++ "+00:00"

end Timestamp

end BearerClient
