/-!
# Dates and times

Dates of the years 1 to 9999, and times of day with an optional offset from universal time.
-/
namespace WidgetMarkup.Data

structure Date where
  year : Nat
  month : Nat
  day : Nat
deriving DecidableEq, Repr

namespace Date

def isLeap (year : Nat) : Bool :=
  year % 4 == 0 && (year % 100 != 0 || year % 400 == 0)

def daysIn (year month : Nat) : Nat :=
  if month == 2 then if isLeap year then 29 else 28
  else if month == 4 || month == 6 || month == 9 || month == 11 then 30
  else 31

def isValid (d : Date) : Bool :=
  1 ≤ d.year && d.year ≤ 9999 && 1 ≤ d.month && d.month ≤ 12 && 1 ≤ d.day &&
    d.day ≤ daysIn d.year d.month

/-- Days from the start of year 1. -/
def ordinal (d : Date) : Nat :=
  let y := d.year - 1
  let before := (List.range (d.month - 1)).foldl (fun n m => n + daysIn d.year (m + 1)) 0
  365 * y + y / 4 - y / 100 + y / 400 + before + d.day

end Date

structure Timestamp where
  date : Date
  hour : Nat
  minute : Nat
  second : Nat
  microsecond : Nat
  /-- Minutes ahead of universal time. -/
  offset : Option Int
deriving DecidableEq, Repr

namespace Timestamp

def isValid (t : Timestamp) : Bool :=
  t.date.isValid && t.hour < 24 && t.minute < 60 && t.second < 60 &&
    t.offset.all fun m => -1440 < m && m < 1440

/-- Microseconds since the start of year 1, in universal time if the offset is known. -/
def instant (t : Timestamp) : Int :=
  let minutes := (t.date.ordinal * 24 + t.hour) * 60 + t.minute
  (((minutes : Int) - t.offset.getD 0) * 60 + t.second) * 1000000 + t.microsecond

/-- Two times are the same if they are the same instant, or the same reading of clocks whose offset
is not known. -/
def same (a b : Timestamp) : Bool :=
  a.offset.isSome == b.offset.isSome && a.instant == b.instant

end Timestamp

/-- Numbers between commas. -/
def argumentText (ns : List Nat) : String :=
  ", ".intercalate (ns.map toString)

/-- A date as an expression that makes it. -/
def Date.text (d : Date) : String :=
  "datetime.date(" ++ argumentText [d.year, d.month, d.day] ++ ")"

namespace Timestamp

/-- The parts of the clock that are written: the seconds and what is below them only up to the last
that is not zero. -/
def clockParts (t : Timestamp) : List Nat :=
  if t.microsecond ≠ 0 then [t.hour, t.minute, t.second, t.microsecond]
  else if t.second ≠ 0 then [t.hour, t.minute, t.second]
  else [t.hour, t.minute]

/-- An offset from universal time as an expression that makes it. A negative one is a day back and
so many seconds forward. -/
def offsetText (minutes : Int) : String :=
  if minutes = 0 then "datetime.timezone.utc"
  else
    let days := if minutes < 0 then "days=-1, " else ""
    let seconds := toString ((minutes % 1440).toNat * 60)
    "datetime.timezone(datetime.timedelta(" ++ days ++ "seconds=" ++ seconds ++ "))"

/-- A time as an expression that makes it. -/
def text (t : Timestamp) : String :=
  let zone := match t.offset with
    | none => ""
    | some m => ", tzinfo=" ++ offsetText m
  let d := t.date
  "datetime.datetime(" ++ argumentText ([d.year, d.month, d.day] ++ t.clockParts) ++ zone ++ ")"

end Timestamp

end WidgetMarkup.Data
