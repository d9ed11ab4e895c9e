import Gatehouse.Bytes
import Gatehouse.Moment
import Gatehouse.Text.Integer

/-!
# Moments as RFC 3339 text

* `Moment.toRfc3339` writes a moment at the offset it is held at. Not every moment has a text: the
  year has four digits, and the offset is a whole number of minutes under a day.
* `Moment.ofRfc3339?` reads such a text. Any single byte may stand between date and time, digits
  behind the ninth of a fraction are dropped, and the leap second that ends a UTC month is read as the
  last nanosecond in front of it.
-/

namespace Gatehouse.Moment

/-! ### Writing -/

inductive Unwritable
  /-- The local year is not between 0 and 9999. -/
  | year
  /-- The offset has more than 23 hours. -/
  | offsetHour
  /-- The offset is not a whole number of minutes. -/
  | offsetSecond
  deriving DecidableEq, Repr

/-- The field that cannot be written. -/
def Unwritable.message : Unwritable → String
  | year => "The year component cannot be formatted into the requested format."
  | offsetHour => "The offset_hour component cannot be formatted into the requested format."
  | offsetSecond => "The offset_second component cannot be formatted into the requested format."

/-- A number in decimal with zeros in front, up to `width` digits. -/
def padded (width n : Nat) : List Char :=
  let digits := Nat.toDigits 10 n
  List.replicate (width - digits.length) '0' ++ digits

/-- A fraction of a second: a dot and nine digits less the zeros at the end, or nothing. -/
def fraction (nanos : Nat) : List Char :=
  if nanos = 0 then []
  else '.' :: ((padded 9 nanos).reverse.dropWhile (· == '0')).reverse

/-- An offset in minutes precision, `Z` for none. -/
def offsetText (offset : Int) : List Char :=
  if offset = 0 then ['Z']
  else
    let minutes := offset.natAbs / 60
    (if offset < 0 then '-' else '+') :: padded 2 (minutes / 60) ++ ':' :: padded 2 (minutes % 60)

/-- A time of day from the seconds that have passed. -/
def clockText (second : Nat) : List Char :=
  padded 2 (second / 3600) ++ ':' :: padded 2 (second / 60 % 60) ++ ':' :: padded 2 (second % 60)

/-- The text of a moment at its offset. -/
def toRfc3339 (m : Moment) : Except Unwritable String :=
  let date := m.date
  if date.year < 0 ∨ 9999 < date.year then .error .year
  else if 24 * 3600 ≤ m.offset.natAbs then .error .offsetHour
  else if m.offset % 60 ≠ 0 then .error .offsetSecond
  else .ok <| String.ofList <|
    padded 4 date.year.toNat ++ '-' :: padded 2 date.month ++ '-' :: padded 2 date.day ++
      'T' :: clockText m.secondOfDay ++ fraction m.nanos ++ offsetText m.offset

/-! ### Reading -/

/-- A reader of a piece of a text: the value and what stands behind it. -/
abbrev Piece (α : Type) := StateT Bytes Option α

def digitValue? (b : UInt8) : Option Nat :=
  if 48 ≤ b && b ≤ 57 then some (b.toNat - 48) else none

def nextByte : Piece UInt8
  | [] => none
  | b :: rest => some (b, rest)

def mark (c : Char) : Piece Unit := do
  let b ← nextByte
  guard (b.toNat = c.toNat)

/-- A number of exactly `width` digits. -/
def digits : Nat → Piece Nat
  | 0 => pure 0
  | width + 1 => do
    let high ← digits width
    let low ← (digitValue? (← nextByte) : Option Nat)
    pure (10 * high + low)

/-- The nanoseconds of the digits in front of a text, where the first one counts `unit`. -/
def nanosOf (unit : Nat) : Bytes → Nat × Bytes
  | [] => (0, [])
  | b :: rest =>
    match digitValue? b with
    | none => (0, b :: rest)
    | some d =>
      let (lower, behind) := nanosOf (unit / 10) rest
      (d * unit + lower, behind)

/-- A fraction of a second with at least one digit, or nothing. -/
def fractionPiece : Piece Nat := fun text =>
  match text with
  | 46 :: rest =>
    match rest with
    | b :: _ => if (digitValue? b).isSome then some (nanosOf 100000000 rest) else none
    | [] => none
  | _ => some (0, text)

def offsetPiece : Piece Int := do
  let sign ← nextByte
  if sign = 90 || sign = 122 then pure 0
  else
    guard (sign = 43 ∨ sign = 45)
    let hour ← digits 2
    mark ':'
    let minute ← digits 2
    guard (hour ≤ 23 ∧ minute ≤ 59)
    let seconds : Int := hour * 3600 + minute * 60
    pure (if sign = 45 then -seconds else seconds)

/-- A date that exists. -/
def datePiece : Piece Date := do
  let year ← digits 4
  mark '-'
  let month ← digits 2
  mark '-'
  let day ← digits 2
  guard (1 ≤ month ∧ month ≤ 12 ∧ 1 ≤ day ∧ day ≤ Date.monthLength year month)
  pure ⟨year, month, day⟩

/-- A time of day in seconds and whether it names a leap second, which counts as the second in front
of it. -/
def clockPiece : Piece (Nat × Bool) := do
  let hour ← digits 2
  mark ':'
  let minute ← digits 2
  mark ':'
  let second ← digits 2
  guard (hour ≤ 23 ∧ minute ≤ 59 ∧ second ≤ 60)
  pure (hour * 3600 + minute * 60 + min second 59, second == 60)

/-- Whether a second of the UTC time line is the last one of a month. -/
def endsMonth (seconds : Int) : Bool :=
  let date := (utc seconds).date
  (utc seconds).secondOfDay == 86399 && date.day == Date.monthLength date.year date.month

/-- The moment of a whole text. -/
def ofRfc3339? (text : Bytes) : Option Moment := do
  let read : Piece Moment := do
    let date ← datePiece
    let _separator ← nextByte
    let (second, isLeap) ← clockPiece
    let nanos ← fractionPiece
    let offset ← offsetPiece
    let seconds := date.dayNumber * 86400 + second - offset
    if isLeap then
      guard (endsMonth seconds)
      pure ⟨seconds, 999999999, offset, by decide⟩
    else if h : nanos < 1000000000 then pure ⟨seconds, nanos, offset, h⟩
    else failure
  let (moment, rest) ← read.run text
  guard rest.isEmpty
  pure moment

end Gatehouse.Moment
