/-
  Folio — dates and moments.

  A timestamp is a day, with or without a time of day, and that with or without
  an offset from universal time.  `Fields.read?` recognises the written forms,
  `ofFields` the days and times that exist.

  * `isoText` writes a timestamp with its fields from the widest to the
    narrowest, as texts order them.
-/
import Folio.Text.Digit

namespace Folio

/-- A time of day. -/
structure ClockTime where
  hour : Nat
  minute : Nat
  second : Nat
  microsecond : Nat
  /-- Minutes ahead of universal time. -/
  offset : Option Int
  deriving Repr, DecidableEq

/-- A day, with a time of day or without. -/
structure Timestamp where
  year : Nat
  month : Nat
  day : Nat
  time : Option ClockTime
  deriving Repr, DecidableEq

/-- Why written fields are no timestamp. -/
inductive CalendarError where
  | year (year : Nat)
  | month
  | day
  | hour
  | minute
  | second
  /-- An offset of a day or more, in minutes. -/
  | offset (minutes : Int)
  deriving Repr, DecidableEq

/-- A length of time in minutes, as messages show it: whole days and the
    seconds after them. -/
def durationText (minutes : Int) : String :=
  let days := minutes.fdiv 1440
  let seconds := minutes.fmod 1440 * 60
  let parts :=
    (if days = 0 then [] else ["days=" ++ toString days]) ++
      (if seconds = 0 then [] else ["seconds=" ++ toString seconds])
  "datetime.timedelta(" ++ (if parts.isEmpty then "0" else ", ".intercalate parts) ++ ")"

/-- What a message says about fields that are no timestamp. -/
def CalendarError.message : CalendarError → String
  | .year y => "year " ++ toString y ++ " is out of range"
  | .month => "month must be in 1..12"
  | .day => "day is out of range for month"
  | .hour => "hour must be in 0..23"
  | .minute => "minute must be in 0..59"
  | .second => "second must be in 0..59"
  | .offset m =>
    "offset must be a timedelta strictly between -timedelta(hours=24) and " ++
      "timedelta(hours=24), not " ++ durationText m ++ "."

namespace Timestamp

/-! ## Written forms -/

/-- The written time of day: digits, and the offset with its sign; a `Z` is an
    offset of zero. -/
structure TimeFields where
  hour : List Char
  minute : List Char
  second : List Char
  fraction : List Char
  offset : Option (Bool × List Char × List Char)
  deriving Repr, DecidableEq

/-- The written fields. -/
structure Fields where
  year : List Char
  month : List Char
  day : List Char
  time : Option TimeFields
  deriving Repr, DecidableEq

namespace Fields

/-- Splits off as many digits as there are, `most` at most and `least` at
    least. -/
def digits? (least most : Nat) (cs : List Char) : Option (List Char × List Char) :=
  let ds := (cs.take most).takeWhile Text.isAsciiDigit
  if least ≤ ds.length then some (ds, cs.drop ds.length) else none

/-- Splits off one character. -/
def char? (c : Char) (cs : List Char) : Option (List Char) :=
  match cs with
  | d :: rest => if d = c then some rest else none
  | [] => none

/-- Is nothing left, or only a line end? -/
def finished (cs : List Char) : Bool := cs == [] || cs == ['\n']

/-- The offset at the end of a time of day. -/
def offset? (cs : List Char) : Option (Option (Bool × List Char × List Char)) :=
  if finished cs then some none
  else
    match cs.dropWhile fun c => c == ' ' || c == '\t' with
    | 'Z' :: rest => if finished rest then some (some (false, ['0'], ['0'])) else none
    | c :: rest =>
      if c = '+' ∨ c = '-' then
        match digits? 1 2 rest with
        | none => none
        | some (hour, rest) =>
          if finished rest then some (some (c = '-', hour, ['0']))
          else
            match (char? ':' rest).bind (digits? 2 2) with
            | some (minute, rest) =>
              if finished rest then some (some (c = '-', hour, minute)) else none
            | none => none
      else none
    | [] => none

/-- The time of day after a day. -/
def time? (cs : List Char) : Option TimeFields := do
  let (hour, rest) ← digits? 1 2 cs
  let (minute, rest) ← (char? ':' rest).bind (digits? 2 2)
  let (second, rest) ← (char? ':' rest).bind (digits? 2 2)
  let (fraction, rest) :=
    match rest with
    | '.' :: more => (more.takeWhile Text.isAsciiDigit, more.dropWhile Text.isAsciiDigit)
    | _ => ([], rest)
  let offset ← offset? rest
  return { hour, minute, second, fraction, offset }

/-- The fields of a written timestamp. -/
def read? (cs : List Char) : Option Fields := do
  let (year, rest) ← digits? 4 4 cs
  let (month, rest) ← (char? '-' rest).bind (digits? 1 2)
  let (day, rest) ← (char? '-' rest).bind (digits? 1 2)
  if finished rest then return { year, month, day, time := none }
  let blank := fun c : Char => c == ' ' || c == '\t'
  match rest with
  | 'T' :: more | 't' :: more => return { year, month, day, time := some (← time? more) }
  | c :: more =>
    if blank c then return { year, month, day, time := some (← time? (more.dropWhile blank)) }
    else failure
  | [] => failure

/-- Is a timestamp meant if the text does not say so?  A day alone must have
    two digits for its month and for its day. -/
def plain (f : Fields) : Bool :=
  f.time.isSome || (f.month.length == 2 && f.day.length == 2)

end Fields

/-! ## Days and times that exist -/

/-- Is it a leap year? -/
def isLeap (year : Nat) : Bool :=
  year % 4 == 0 && (year % 100 != 0 || year % 400 == 0)

/-- How many days a month has. -/
def daysIn (year month : Nat) : Nat :=
  if month = 2 then (if isLeap year then 29 else 28)
  else if month = 4 ∨ month = 6 ∨ month = 9 ∨ month = 11 then 30
  else 31

/-- The microseconds of a fraction of a second; further digits are dropped. -/
def microseconds (fraction : List Char) : Nat :=
  Text.decimalNumber ((fraction ++ List.replicate 6 '0').take 6)

/-- The written offset in minutes. -/
def offsetMinutes (negative : Bool) (hour minute : List Char) : Int :=
  let m : Int := Text.decimalNumber hour * 60 + Text.decimalNumber minute
  if negative then -m else m

/-- The time of day of written fields, not yet checked but for its offset. -/
def clockOf (f : TimeFields) : Except CalendarError ClockTime :=
  let time : ClockTime :=
    { hour := Text.decimalNumber f.hour
      minute := Text.decimalNumber f.minute
      second := Text.decimalNumber f.second
      microsecond := microseconds f.fraction
      offset := f.offset.map fun o => offsetMinutes o.1 o.2.1 o.2.2 }
  match time.offset with
  | some m => if m.natAbs < 1440 then .ok time else .error (.offset m)
  | none => .ok time

/-- Checks the day, then the time of day. -/
def check (t : Timestamp) : Except CalendarError Timestamp :=
  if t.year = 0 then .error (.year t.year)
  else if t.month = 0 ∨ 12 < t.month then .error .month
  else if t.day = 0 ∨ daysIn t.year t.month < t.day then .error .day
  else
    match t.time with
    | none => .ok t
    | some c =>
      if 23 < c.hour then .error .hour
      else if 59 < c.minute then .error .minute
      else if 59 < c.second then .error .second
      else .ok t

/-- The timestamp of written fields. -/
def ofFields (f : Fields) : Except CalendarError Timestamp := do
  let time ← f.time.mapM clockOf
  check
    { year := Text.decimalNumber f.year
      month := Text.decimalNumber f.month
      day := Text.decimalNumber f.day
      time }

/-! ## Texts -/

/-- An offset as a sign, hours and minutes. -/
def offsetText (m : Int) : List Char :=
  (if m < 0 then '-' else '+') :: Text.paddedDecimal (m.natAbs / 60) 2 ++
    ':' :: Text.paddedDecimal (m.natAbs % 60) 2

/-- A time of day. -/
def clockText (c : ClockTime) : List Char :=
  Text.paddedDecimal c.hour 2 ++ ':' :: Text.paddedDecimal c.minute 2 ++
    ':' :: Text.paddedDecimal c.second 2 ++
    (if c.microsecond = 0 then [] else '.' :: Text.paddedDecimal c.microsecond 6) ++
    (c.offset.map offsetText).getD []

/-- The fields from year to offset, with `between` before the time of day. -/
def isoText (between : Char) (t : Timestamp) : List Char :=
  Text.paddedDecimal t.year 4 ++ '-' :: Text.paddedDecimal t.month 2 ++
    '-' :: Text.paddedDecimal t.day 2 ++
    (t.time.map fun c => between :: clockText c).getD []

/-! ## Equality of moments -/

/-- Days before the first of January of a year. -/
def daysBefore (year : Nat) : Nat :=
  let y := year - 1
  365 * y + y / 4 - y / 100 + y / 400

/-- The day counted from the first of January of year one. -/
def ordinal (t : Timestamp) : Nat :=
  (List.range (t.month - 1)).foldl (fun days m => days + daysIn t.year (m + 1))
    (daysBefore t.year) + t.day

/-- Microseconds since the start of year one in universal time. -/
def instant (t : Timestamp) (c : ClockTime) : Int :=
  let minutes : Int := (t.ordinal * 24 + c.hour) * 60 + c.minute - c.offset.getD 0
  (minutes * 60 + c.second) * 1000000 + c.microsecond

/-- Do the timestamps stand for the same time?  Days equal days only, and
    moments with an offset only such moments. -/
def same (s t : Timestamp) : Bool :=
  match s.time, t.time with
  | some c, some d =>
    c.offset.isSome == d.offset.isSome && s.instant c == t.instant d
  | none, none => s == t
  | _, _ => false

end Timestamp

end Folio
