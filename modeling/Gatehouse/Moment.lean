/-!
# Moments

A moment is an instant on the Unix time line together with the offset from UTC at which it is held.
Its calendar fields are those of the proleptic Gregorian calendar at that offset.

* `daysBeforeYear` and `daysBeforeMonth` count days, and `Date.dayNumber` is built on them.
* `Date.ofDayNumber` finds the date of a day; `Moment.date` and `Moment.secondOfDay` are the local
  date and time of a moment.
-/

namespace Gatehouse

/-- An instant with a fraction of a second, and the offset east of UTC in seconds at which it is
held. -/
structure Moment where
  seconds : Int
  nanos : Nat
  offset : Int
  nanos_lt : nanos < 1000000000 := by omega
  deriving DecidableEq

/-- A calendar date; `month` and `day` count from one. -/
structure Date where
  year : Int
  month : Nat
  day : Nat
  deriving DecidableEq, Repr

namespace Date

def isLeap (year : Int) : Bool := year % 4 == 0 && (year % 100 != 0 || year % 400 == 0)

def monthLengths (year : Int) : List Nat :=
  [31, if isLeap year then 29 else 28, 31, 30, 31, 30, 31, 31, 30, 31, 30, 31]

/-- The length of a month, zero outside the twelve. -/
def monthLength (year : Int) (month : Nat) : Nat :=
  if month = 0 then 0 else ((monthLengths year)[month - 1]?).getD 0

/-- The number of days from 1 January of year zero to 1 January of a year. -/
def daysBeforeYear (year : Int) : Int :=
  year * 365 + (year + 3).fdiv 4 - (year + 99).fdiv 100 + (year + 399).fdiv 400

/-- The number of days of a year in front of a month. -/
def daysBeforeMonth (year : Int) (month : Nat) : Nat :=
  ((monthLengths year).take (month - 1)).foldl (· + ·) 0

/-- The day number of 1 January 1970, counted from 1 January of year zero. -/
def epochDay : Int := 719528

/-- The number of a day, counted from 1 January 1970. -/
def dayNumber (d : Date) : Int :=
  daysBeforeYear d.year + daysBeforeMonth d.year d.month + d.day - 1 - epochDay

/-- The month and day of the `n`-th day behind the start of month `month`, where `lengths` holds the
lengths of the months from `month` on. -/
def monthDay (month n : Nat) : List Nat → Nat × Nat
  | [] => (month, n + 1)
  | len :: rest => if n < len then (month, n + 1) else monthDay (month + 1) (n - len) rest

/-- The year of a day counted from 1 January of year zero. The mean length of a year gives the year
or one next to it. -/
def yearOfDay (n : Int) : Int :=
  let guess := (n * 400).fdiv 146097
  if n < daysBeforeYear guess then guess - 1
  else if daysBeforeYear (guess + 1) ≤ n then guess + 1
  else guess

/-- The date of a day counted from 1 January 1970. -/
def ofDayNumber (n : Int) : Date :=
  let day := n + epochDay
  let year := yearOfDay day
  let (month, dayOfMonth) := monthDay 1 (day - daysBeforeYear year).toNat (monthLengths year)
  ⟨year, month, dayOfMonth⟩

end Date

namespace Moment

/-- The instant `seconds` seconds behind the start of 1970, held in UTC. -/
def utc (seconds : Int) : Moment := ⟨seconds, 0, 0, by decide⟩

/-- The seconds of the local clock, counted from the start of 1970. -/
def localSeconds (m : Moment) : Int := m.seconds + m.offset

def date (m : Moment) : Date := Date.ofDayNumber (m.localSeconds.fdiv 86400)

/-- The seconds of the local day that have passed. -/
def secondOfDay (m : Moment) : Nat := (m.localSeconds.fmod 86400).toNat

end Moment

end Gatehouse
