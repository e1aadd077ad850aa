import ZoneServices.Text.Numeral

/-!
# Timestamps

A timestamp is a moment of universal time, by its date in the Gregorian calendar and its time of
day with nanoseconds.  A minute may have a sixty-first second.

It is written in the profile of RFC 3339 that ends in `Z`, with as many groups of three decimals
as it takes.  A text may give another offset from universal time, and the moment is then moved
by whole minutes; it may also have blanks before its numbers, leave out leading zeros, and say
`UTC`.
-/

namespace ZoneServices

namespace Calendar

/-- Whether a year has a leap day. -/
def isLeap (year : Int) : Bool :=
  (year % 4 == 0 && year % 100 != 0) || year % 400 == 0

/-- Number of days of a month. -/
def daysIn (year : Int) (month : Nat) : Nat :=
  if month = 2 then (if isLeap year then 29 else 28)
  else if month = 4 ∨ month = 6 ∨ month = 9 ∨ month = 11 then 30
  else 31

/-- A day of the calendar. -/
structure Date where
  year : Int
  month : Nat
  day : Nat
deriving DecidableEq, Repr

/-- The first and the last year of the calendar. -/
def years : Int × Int := (-262143, 262142)

/-- Whether a date is one of the calendar. -/
def Date.Exists (date : Date) : Prop :=
  years.1 ≤ date.year ∧ date.year ≤ years.2 ∧ 1 ≤ date.month ∧ date.month ≤ 12
    ∧ 1 ≤ date.day ∧ date.day ≤ daysIn date.year date.month

instance (date : Date) : Decidable date.Exists :=
  inferInstanceAs (Decidable (_ ∧ _ ∧ _ ∧ _ ∧ _ ∧ _))

/-- The day after. -/
def Date.next (date : Date) : Date :=
  if date.day < daysIn date.year date.month then { date with day := date.day + 1 }
  else if date.month < 12 then { date with month := date.month + 1, day := 1 }
  else ⟨date.year + 1, 1, 1⟩

/-- The day before. -/
def Date.previous (date : Date) : Date :=
  if 1 < date.day then { date with day := date.day - 1 }
  else if 1 < date.month then
    { date with month := date.month - 1, day := daysIn date.year (date.month - 1) }
  else ⟨date.year - 1, 12, 31⟩

/--
The day that is some days after the first day of 1970.  Years are counted from March here, so
that the leap day is the last day of a year, and in eras of 400 years, which all have the same
number of days.
-/
def Date.ofDayNumber (days : Int) : Date :=
  let shifted := days + 719468
  let era := shifted / 146097
  let dayOfEra := (shifted % 146097).toNat
  let yearOfEra := (dayOfEra - dayOfEra / 1460 + dayOfEra / 36524 - dayOfEra / 146096) / 365
  let dayOfYear := dayOfEra - (365 * yearOfEra + yearOfEra / 4 - yearOfEra / 100)
  let monthFromMarch := (5 * dayOfYear + 2) / 153
  let day := dayOfYear - (153 * monthFromMarch + 2) / 5 + 1
  let month := if monthFromMarch < 10 then monthFromMarch + 3 else monthFromMarch - 9
  let year := (yearOfEra : Int) + era * 400
  ⟨if month ≤ 2 then year + 1 else year, month, day⟩

end Calendar

open Calendar

/-- A time of day. -/
structure Clock where
  hour : Nat
  minute : Nat
  second : Nat
  nanosecond : Nat
deriving DecidableEq, Repr

/-- Whether a time occurs in a day, that of a leap second included. -/
def Clock.Exists (clock : Clock) : Prop :=
  clock.hour < 24 ∧ clock.minute < 60 ∧ clock.second ≤ 60 ∧ clock.nanosecond < 1000000000

instance (clock : Clock) : Decidable clock.Exists :=
  inferInstanceAs (Decidable (_ ∧ _ ∧ _ ∧ _))

/-- A moment of universal time. -/
structure Timestamp where
  date : Date
  clock : Clock
  date_exists : date.Exists
  clock_exists : clock.Exists
deriving DecidableEq, Repr

namespace Timestamp

/-- The moment of a date and a time that exist. -/
def ofParts? (date : Date) (clock : Clock) : Option Timestamp :=
  if dateExists : date.Exists then
    if clockExists : clock.Exists then some ⟨date, clock, dateExists, clockExists⟩ else none
  else
    none

/-- The first moment of 1970, in which the clocks of machines start. -/
def epoch : Timestamp :=
  ⟨⟨1970, 1, 1⟩, ⟨0, 0, 0, 0⟩, by decide, by decide⟩

/-- The moment that is some seconds and nanoseconds after the first one of 1970. -/
def ofSeconds? (seconds : Int) (nanosecond : Nat) : Option Timestamp :=
  let ofDay := (seconds % 86400).toNat
  ofParts? (.ofDayNumber (seconds / 86400))
    ⟨ofDay / 3600, ofDay / 60 % 60, ofDay % 60, nanosecond⟩

/-- The moment of a date and a time at a place that is ahead of universal time by some minutes. -/
def ofLocal? (date : Date) (clock : Clock) (ahead : Int) : Option Timestamp := do
  let here ← ofParts? date clock
  let minutes : Int := here.clock.hour * 60 + here.clock.minute - ahead
  let day := if minutes < 0 then date.previous else if minutes < 1440 then date else date.next
  let minutes := (minutes % 1440).toNat
  ofParts? day { clock with hour := minutes / 60, minute := minutes % 60 }

/-! ## Writing -/

/-- A year in at least four digits, with a sign unless it lies between 0 and 9999. -/
def writeYear (year : Int) : Text :=
  if 0 ≤ year ∧ year ≤ 9999 then Numeral.padded 4 year.toNat
  else (if year < 0 then '-' else '+') :: Numeral.padded 4 year.natAbs

/-- Written form of a part of a second, in groups of three decimals. -/
def writeFraction (nanosecond : Nat) : Text :=
  if nanosecond = 0 then []
  else if nanosecond % 1000000 = 0 then '.' :: Numeral.padded 3 (nanosecond / 1000000)
  else if nanosecond % 1000 = 0 then '.' :: Numeral.padded 6 (nanosecond / 1000)
  else '.' :: Numeral.padded 9 nanosecond

/-- The written form of a moment, which says by `Z` that the time is universal. -/
def write (moment : Timestamp) : Text :=
  writeYear moment.date.year ++ '-' :: Numeral.padded 2 moment.date.month
    ++ '-' :: Numeral.padded 2 moment.date.day
    ++ 'T' :: Numeral.padded 2 moment.clock.hour ++ ':' :: Numeral.padded 2 moment.clock.minute
    ++ ':' :: Numeral.padded 2 moment.clock.second
    ++ writeFraction moment.clock.nanosecond ++ ['Z']

/-! ## Reading -/

/-- What is left of a text behind its blanks. -/
def skipBlanks (text : Text) : Text :=
  text.dropWhile Text.isBlank

/--
The number of at least one digit and at most `width` at the front of a text, and the text after
it.
-/
def readDigits? (width : Nat) (text : Text) : Option (Nat × Text) :=
  let digits := (text.take width).takeWhile Char.isDigit
  (Numeral.natural? digits).map fun value => (value, text.drop digits.length)

/-- The number of at most two digits at the front of a text, after blanks. -/
def readPair? (text : Text) : Option (Nat × Text) :=
  readDigits? 2 (skipBlanks text)

/-- The year at the front of a text, after blanks; with a sign it may have more than four digits. -/
def readYear? (text : Text) : Option (Int × Text) :=
  match skipBlanks text with
  | '-' :: rest => (readDigits? rest.length rest).map fun read => (-(read.1 : Int), read.2)
  | '+' :: rest => (readDigits? rest.length rest).map fun read => ((read.1 : Int), read.2)
  | rest => (readDigits? 4 rest).map fun read => ((read.1 : Int), read.2)

/-- What is left of a text behind a mark, with blanks before it. -/
def skipMark? (mark : Char) (text : Text) : Option Text :=
  match skipBlanks text with
  | character :: rest => if character = mark then some rest else none
  | [] => none

/-- A date at the front of a text, and what is left behind it. -/
def readDate? (text : Text) : Option (Date × Text) := do
  let (year, rest) ← readYear? text
  let (month, rest) ← readPair? (← skipMark? '-' rest)
  let (day, rest) ← readPair? (← skipMark? '-' rest)
  return (⟨year, month, day⟩, rest)

/-- The decimals of a second at the front of a text, of which nine count; there may be none. -/
def readFraction? (text : Text) : Option (Nat × Text) :=
  match text with
  | '.' :: rest =>
    let digits := rest.takeWhile Char.isDigit
    let counted := digits.take 9
    (Numeral.natural? counted).map fun value =>
      (value * Nat.pow 10 (9 - counted.length), rest.drop digits.length)
  | _ => some (0, text)

/-- A time of day at the front of a text, and what is left behind it. -/
def readClock? (text : Text) : Option (Clock × Text) := do
  let (hour, rest) ← readPair? text
  let (minute, rest) ← readPair? (← skipMark? ':' rest)
  let (second, rest) ← readPair? (← skipMark? ':' rest)
  let (nanosecond, rest) ← readFraction? rest
  return (⟨hour, minute, second, nanosecond⟩, rest)

/-- The number that exactly two digits write, and what is left behind them. -/
def twoDigits? : Text → Option (Nat × Text)
  | tens :: ones :: rest =>
    match Text.digit? tens, Text.digit? ones with
    | some tens, some ones => some (tens * 10 + ones, rest)
    | _, _ => none
  | _ => none

/-- The sign of an offset and the text after it; the minus sign may be a hyphen. -/
def readSign? : Text → Option (Int × Text)
  | '+' :: rest => some (1, rest)
  | '-' :: rest => some (-1, rest)
  | '\u2212' :: rest => some (-1, rest)
  | _ => none

/--
Minutes that a place is ahead of universal time, at the front of a text, and the text after it.
-/
def readOffset? (text : Text) : Option (Int × Text) :=
  match text with
  | 'Z' :: rest => some (0, rest)
  | 'z' :: rest => some (0, rest)
  | _ =>
    if Text.fold (text.take 3) = "utc".toList then
      some (0, text.drop 3)
    else do
      let (sign, rest) ← readSign? text
      let (hours, rest) ← twoDigits? rest
      let (minutes, rest) ←
        twoDigits? (rest.dropWhile fun character => character == ':' || Text.isBlank character)
      if hours < 24 ∧ minutes < 60 then some (sign * (hours * 60 + minutes), rest) else none

/-- The moment that a text writes, moved to universal time. -/
def read? (text : Text) : Option Timestamp := do
  let (date, rest) ← readDate? text
  let rest ← match rest with
    | separator :: rest =>
      if separator = 'T' ∨ separator = 't' ∨ separator = ' ' then some rest else none
    | [] => none
  let (clock, rest) ← readClock? rest
  let (ahead, rest) ← readOffset? (skipBlanks rest)
  if (skipBlanks rest).isEmpty then ofLocal? date clock ahead else none

end Timestamp

end ZoneServices
