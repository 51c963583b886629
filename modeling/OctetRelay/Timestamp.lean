/-
# Broker timestamps

A timestamp counts milliseconds from the start of 1970 in the proleptic
Gregorian calendar, in universal time.  Dates are known for the years -262143
to 262142; a timestamp outside them is shown as its count.

Days are turned into dates in eras of 400 years, which all have 146097 days; a
year begins in March for that purpose, so that a leap day ends it.

Source: `MessageTimestamp`; `SPEC_FULL.md` 3, Inbound Message, and 14, the trace
detail of a message.
-/

namespace OctetRelay

/-- Who set a timestamp. -/
inductive TimestampKind where
  /-- The producer, when the message was made. -/
  | create
  /-- The broker, when the message was appended to its log. -/
  | append
  deriving DecidableEq, Repr

/-- The name of a kind of timestamp. -/
def TimestampKind.text : TimestampKind → String
  | .create => "create time"
  | .append => "log append time"

/-- A day of the calendar. -/
structure Date where
  year : Int
  month : Nat
  day : Nat
  deriving DecidableEq, Repr

/-- The date of a day, counted from 1 January 1970. -/
def Date.ofDays (days : Int) : Date :=
  let shifted := days + 719468
  let era := shifted / 146097
  let dayOfEra := (shifted % 146097).toNat
  let yearOfEra := (dayOfEra - dayOfEra / 1460 + dayOfEra / 36524 - dayOfEra / 146096) / 365
  let dayOfYear := dayOfEra - (365 * yearOfEra + yearOfEra / 4 - yearOfEra / 100)
  let shiftedMonth := (5 * dayOfYear + 2) / 153
  let month := if shiftedMonth < 10 then shiftedMonth + 3 else shiftedMonth - 9
  let year := yearOfEra + era * 400
  { year := if month ≤ 2 then year + 1 else year
    month
    day := dayOfYear - (153 * shiftedMonth + 2) / 5 + 1 }

/-- A number with at least so many digits. -/
def paddedNumeral (width n : Nat) : String :=
  let digits := Nat.toDigits 10 n
  String.ofList (List.replicate (width - digits.length) '0' ++ digits)

/-- A year: four digits from 0 to 9999, a sign before four or more digits elsewhere. -/
def Date.yearText (year : Int) : String :=
  if 0 ≤ year ∧ year ≤ 9999 then paddedNumeral 4 year.toNat
  else (if year < 0 then "-" else "+") ++ paddedNumeral 4 year.natAbs

/-- A timestamp of a message. -/
structure Timestamp where
  kind : TimestampKind
  millis : Int64
  deriving DecidableEq, Repr

namespace Timestamp

/-- Whether the timestamp falls in a year with dates. -/
def inCalendar (stamp : Timestamp) : Bool :=
  -8334601228800000 ≤ stamp.millis.toInt && stamp.millis.toInt < 8210266876800000

/-- The moment as date and time, with milliseconds where there are any. -/
def momentText (millis : Int) : String :=
  let days := millis / 86400000
  let rest := (millis % 86400000).toNat
  let date := Date.ofDays days
  let fraction := if rest % 1000 = 0 then "" else "." ++ paddedNumeral 3 (rest % 1000)
  Date.yearText date.year ++ "-" ++ paddedNumeral 2 date.month ++ "-" ++ paddedNumeral 2 date.day
    ++ "T" ++ paddedNumeral 2 (rest / 3600000) ++ ":" ++ paddedNumeral 2 (rest / 60000 % 60)
    ++ ":" ++ paddedNumeral 2 (rest / 1000 % 60) ++ fraction ++ "+00:00"

/-- The kind and the moment, or the bare count outside the calendar. -/
def text (stamp : Timestamp) : String :=
  let moment :=
    if stamp.inCalendar then momentText stamp.millis.toInt else toString stamp.millis.toInt
  stamp.kind.text ++ " " ++ moment

end Timestamp
end OctetRelay
