import Notices.Number.Shortest
import Notices.Time.Calendar

/-!
# Timestamps

A timestamp is a reading of a clock, to the microsecond, with the offset of that
clock from universal time if it is known.

* `Timestamp.read` reads the international notation: a date, and behind a `T` or
  a space a time of day with an optional fraction and an optional offset.  A
  bare date is its midnight.  A numeral counts seconds, or milliseconds if it is
  large, from 1970-01-01 in universal time.  The notation has a year 0, which is
  no year of the calendar and is refused in the end.
* `Timestamp.text` writes it again: universal time ends in `Z`, an unknown
  offset leaves no mark, and a fraction has six digits or is left out.
-/

namespace Notices

/-- A clock reading: seconds since 1970-01-01T00:00:00 on that clock,
microseconds, and how many minutes the clock is ahead of universal time. -/
structure Timestamp where
  seconds : Int
  micros : Nat
  offset : Option Int
  deriving DecidableEq, Repr, Inhabited

namespace Timestamp

/-- The number of seconds of a day. -/
def daySeconds : Int := 86400

/-- The last second of the year 9999. -/
def lastSecond : Int := 253402300799

/-- The first second of the year 1. -/
def firstSecond : Int := -62135596800

/-- The first second of the year 0, before which a count of seconds is not
read. -/
def firstCounted : Int := -62167219200

/-- Counts of more than this many seconds are read as milliseconds. -/
def secondsLimit : Nat := 20000000000

/-- The date on the clock. -/
def date (t : Timestamp) : Date :=
  Date.ofDayNumber (Int.fdiv t.seconds daySeconds)

/-- The microsecond of universal time; an unknown offset counts as none. -/
def instant (t : Timestamp) : Int :=
  (t.seconds - 60 * t.offset.getD 0) * 1000000 + t.micros

/-- The same clock a number of seconds later. -/
def addSeconds (t : Timestamp) (n : Int) : Timestamp :=
  { t with seconds := t.seconds + n }

/-- The same clock a number of days later, unless that is after the year
9999. -/
def addDays? (t : Timestamp) (n : Nat) : Option Timestamp :=
  let later := t.addSeconds (n * daySeconds)
  if later.seconds ≤ lastSecond then some later else none

/-- Whether the clock shows a year of the calendar, which begins with the year
1. -/
def isInCalendar (t : Timestamp) : Bool := firstSecond ≤ t.seconds

/-- The moment of universal time a number of seconds and
microseconds after 1970-01-01. -/
def ofMicros? (seconds : Int) (micros : Nat) : Option Timestamp :=
  let seconds := seconds + (micros / 1000000 : Nat)
  if firstCounted ≤ seconds ∧ seconds ≤ lastSecond then
    some { seconds, micros := micros % 1000000, offset := some 0 }
  else none

/-- The moment that is a count of seconds, or of milliseconds if the count is
large, after 1970-01-01. -/
def ofCount? (count : Int) : Option Timestamp :=
  if count.natAbs ≤ secondsLimit then ofMicros? count 0
  else ofMicros? (Int.fdiv count 1000) ((Int.fmod count 1000).toNat * 1000)

/-- The moment that is a count with a fraction after 1970-01-01.  Each step of
its arithmetic is rounded to binary64, and half a microsecond counts as one. -/
def ofReal? (count : Binary64) : Option Timestamp := do
  let (num, den) ← count.ratio?
  let inSeconds := num.natAbs ≤ secondsLimit * den
  let (num, den) ← (if inSeconds then count
      else Binary64.ofRatio num (1000 * den)).ratio?
  let second := Int.fdiv num den
  let (num, den) ← (Binary64.ofRatio (num - second * den) den).ratio?
  let (num, den) ← (Binary64.ofRatio (num * 1000000) den).ratio?
  ofMicros? second ((2 * num.natAbs + den) / (2 * den))

/-- Writes a number with leading zeros up to a width. -/
def padded (width n : Nat) : List Char :=
  let digits := natText n
  List.replicate (width - digits.length) '0' ++ digits

/-- The offset of a clock: `Z`, a sign with hours and minutes, or nothing. -/
def offsetText : Option Int → List Char
  | none => []
  | some 0 => ['Z']
  | some minutes =>
    let n := minutes.natAbs
    (if minutes < 0 then '-' else '+') :: padded 2 (n / 60) ++
      ':' :: padded 2 (n % 60)

/-- The text of a timestamp in the international notation. -/
def text (t : Timestamp) : List Char :=
  let d := t.date
  let s := (Int.fmod t.seconds daySeconds).toNat
  padded 4 d.year ++ '-' :: padded 2 d.month ++ '-' :: padded 2 d.day ++
    'T' :: padded 2 (s / 3600) ++ ':' :: padded 2 (s / 60 % 60) ++
      ':' :: padded 2 (s % 60) ++
    (if t.micros = 0 then [] else '.' :: padded 6 t.micros) ++
      offsetText t.offset

/-- The date alone, month first and without leading zeros. -/
def shortDate (t : Timestamp) : List Char :=
  let d := t.date
  natText d.month ++ '/' :: natText d.day ++ '/' :: natText d.year

/-! ## Reading -/

/-- The value of a run of decimal digits. -/
def digitsValue (digits : List Char) : Nat :=
  digits.foldl (fun n c => 10 * n + (c.toNat - '0'.toNat)) 0

/-- Reads exactly `width` ASCII digits. -/
def readDigits? (width : Nat) (s : List Char) : Option (Nat × List Char) :=
  let digits := s.take width
  if digits.length = width ∧
    digits.all Char.isDigit then some (digitsValue digits, s.drop width)
  else none

/-- Reads one character of a class. -/
def readMark? (p : Char → Bool) : List Char → Option (List Char)
  | c :: rest => if p c then some rest else none
  | [] => none

/-- Reads the date at the start of a text. -/
def readDate? (s : List Char) : Option (Date × List Char) := do
  let (year, s) ← readDigits? 4 s
  let s ← readMark? (· == '-') s
  let (month, s) ← readDigits? 2 s
  let s ← readMark? (· == '-') s
  let (day, s) ← readDigits? 2 s
  let date : Date := { year, month, day }
  if date.isValid then some (date, s) else none

/-- Reads an offset that is all of a text; the empty text leaves the offset
unknown. -/
def readOffset? : List Char → Option (Option Int)
  | [] => some none
  | c :: rest =>
    if c == 'Z' || c == 'z' then (if rest.isEmpty then some (some 0) else none)
    else if c == '+' || c == '-' || c == '−' then do
      let (hours, rest) ← readDigits? 2 rest
      let (minutes, rest) ← readDigits? 2
          ((readMark? (· == ':') rest).getD rest)
      if rest.isEmpty ∧ hours < 24 ∧ minutes < 60 then
        let total : Int := hours * 60 + minutes
        some (some (if c == '+' then total else -total))
      else none
    else none

/-- Reads a fraction of a second, of which six digits count, if one is there. -/
def readFraction? : List Char → Option (Nat × List Char)
  | c :: rest =>
    if c == '.' || c == ',' then
      let digits := rest.takeWhile Char.isDigit
      if digits.isEmpty then none
      else
        let six := (digits ++ List.replicate 6 '0').take 6
        some (digitsValue six, rest.dropWhile Char.isDigit)
    else some (0, c :: rest)
  | [] => some (0, [])

/-- Reads seconds with their fraction, which a time of day may leave out. -/
def readSeconds? (s : List Char) : Option ((Nat × Nat) × List Char) :=
  match readMark? (· == ':') s with
  | none => some ((0, 0), s)
  | some s => do
    let (second, s) ← readDigits? 2 s
    let (micros, s) ← readFraction? s
    if second < 60 then some ((second, micros), s) else none

/-- Reads a timestamp in the international notation. -/
def readNotation? (s : List Char) : Option Timestamp := do
  let (date, s) ← readDate? s
  let midnight := date.dayNumber * daySeconds
  if s.isEmpty then
    some { seconds := midnight, micros := 0, offset := none }
  else
    let s ← readMark? (fun c => c == 'T' || c == 't' || c == ' ' || c == '_') s
    let (hour, s) ← readDigits? 2 s
    let s ← readMark? (· == ':') s
    let (minute, s) ← readDigits? 2 s
    let ((second, micros), s) ← readSeconds? s
    let offset ← readOffset? s
    if hour < 24 ∧ minute < 60 then
      some { seconds := midnight +
        (hour * 3600 + minute * 60 + second : Nat), micros, offset }
    else none

/-- Reads a numeral as a count, which has a fraction if there is a point in
it. -/
def readCount? (s : List Char) : Option Timestamp :=
  let negative := s.head? == some '-'
  let body := if negative || s.head? == some '+' then s.drop 1 else s
  let whole := body.takeWhile Char.isDigit
  match body.dropWhile Char.isDigit with
  | [] =>
    if whole.isEmpty then none
    else
      let n : Int := digitsValue whole
      ofCount? (if negative then -n else n)
  | c :: fraction =>
    if c == '.' && fraction.all Char.isDigit &&
      !(whole ++ fraction).isEmpty then
      ofReal? (Binary64.ofDecimal negative (digitsValue (whole ++ fraction))
        (-(fraction.length : Int)))
    else none

/-- Why a text is not read as a timestamp. -/
inductive Problem where
  | unreadable
  | yearZero
  deriving DecidableEq, Repr

/-- Reads a timestamp from a text. -/
def read (s : List Char) : Except Problem Timestamp :=
  match (readNotation? s).or (readCount? s) with
  | some t => if t.isInCalendar then .ok t else .error .yearZero
  | none => .error .unreadable

end Timestamp

end Notices
