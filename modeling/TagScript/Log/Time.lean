import TagScript.Decimal.Shortest
import TagScript.Text.Case

/-!
# `TagScript.Log.Time`: points and spans of time as text

Points of time are counted in nanoseconds since the start of 1970 and shown in
universal time, by a layout: a text that shows what the reference time, Monday
the 2nd of January 2006 at 15:04:05, would look like.

* `Moment.ofNanoseconds`: a point of time on the calendar.
* `formatTime`: a point of time by a layout.
* `durationText`: a span of time.
* `TimeStyle.parse`: the layout that a name or a text asks for.
-/

set_option autoImplicit false

namespace TagScript.Log

open Decimal Text

/-! ### The calendar -/

/-- A point of time on the calendar and the clock. -/
structure Moment where
  year : Int
  month : Nat
  day : Nat
  /-- The number of the day in its year, from one on. -/
  yearDay : Nat
  /-- The number of the day in its week, from Sunday on. -/
  weekday : Nat
  hour : Nat
  minute : Nat
  second : Nat
  nanosecond : Nat
deriving Repr, DecidableEq, Inhabited

/-- Whether a year has a leap day. -/
def isLeap (year : Int) : Bool :=
  year % 4 == 0 && (year % 100 != 0 || year % 400 == 0)

/-- The lengths of the months of a year. -/
def monthLengths (year : Int) : List Nat :=
  [31, if isLeap year then 29 else 28, 31, 30, 31, 30, 31, 31, 30, 31, 30, 31]

/-- The number of days from the start of 1970 to the start of a year. -/
def daysBefore (year : Int) : Int :=
  let y := year - 1
  365 * (year - 1970) + (y / 4 - 1969 / 4) - (y / 100 - 1969 / 100) + (y / 400 - 1969 / 400)

/-- The month and the day of a day of the year, counted from zero. -/
def monthDay : List Nat → Nat → Nat → Nat × Nat
  | [], month, day => (month, day + 1)
  | length :: rest, month, day =>
    if day < length then (month, day + 1) else monthDay rest (month + 1) (day - length)

/-- The year of a day: an estimate from the mean length of a year is off by one
at most. -/
def yearOf (day : Int) : Int :=
  let guess := 1970 + (day * 400) / 146097
  if day < daysBefore guess then guess - 1
  else if daysBefore (guess + 1) ≤ day then guess + 1
  else guess

/-- A point of time on the calendar. -/
def Moment.ofNanoseconds (t : Int) : Moment :=
  let seconds := t / 1000000000
  let day := seconds / 86400
  let clock := (seconds % 86400).toNat
  let year := yearOf day
  let yearDay := (day - daysBefore year).toNat
  let (month, monthDay) := monthDay (monthLengths year) 1 yearDay
  { year, month, day := monthDay, yearDay := yearDay + 1
    weekday := ((day + 4) % 7).toNat
    hour := clock / 3600, minute := clock / 60 % 60, second := clock % 60
    nanosecond := (t % 1000000000).toNat }

/-! ### Layouts -/

/-- The names of the months. -/
def monthNames : List String :=
  ["January", "February", "March", "April", "May", "June", "July", "August", "September",
    "October", "November", "December"]

/-- The names of the days of the week. -/
def dayNames : List String :=
  ["Sunday", "Monday", "Tuesday", "Wednesday", "Thursday", "Friday", "Saturday"]

/-- The parts of a layout. -/
inductive LayoutPart where
  | literal (c : Char)
  | longMonth | month | numMonth | zeroMonth
  | longWeekday | weekday
  | day | underDay | zeroDay | underYearDay | zeroYearDay
  | hour | hour12 | zeroHour12
  | minute | zeroMinute | second | zeroSecond
  | longYear | year
  | upperHalf | lowerHalf
  | zoneName
  /-- A zone that is written `Z` for universal time. -/
  | isoZone
  /-- A zone that is written as a number: what that is for universal time. -/
  | numZone (text : String)
  /-- A fraction of a second with its mark and a number of digits; trailing zeros
  are dropped or not. -/
  | fraction (mark : Char) (digits : Nat) (trim : Bool)
deriving Repr, DecidableEq, Inhabited

/-- Whether a text begins with a lower-case letter. -/
def startsLower : List Char → Bool
  | c :: _ => 'a' ≤ c && c ≤ 'z'
  | [] => false

/-- The parts that are fixed texts, the longer before the shorter. -/
def fixedParts : List (String × LayoutPart) :=
  [("January", .longMonth), ("Monday", .longWeekday), ("MST", .zoneName),
    ("01", .zeroMonth), ("02", .zeroDay), ("03", .zeroHour12), ("04", .zeroMinute),
    ("05", .zeroSecond), ("06", .year), ("002", .zeroYearDay),
    ("15", .hour), ("1", .numMonth), ("2006", .longYear), ("2", .day),
    ("__2", .underYearDay), ("3", .hour12), ("4", .minute), ("5", .second),
    ("PM", .upperHalf), ("pm", .lowerHalf),
    ("-070000", .numZone "+000000"), ("-07:00:00", .numZone "+00:00:00"),
    ("-0700", .numZone "+0000"), ("-07:00", .numZone "+00:00"), ("-07", .numZone "+00"),
    ("Z070000", .isoZone), ("Z07:00:00", .isoZone), ("Z0700", .isoZone), ("Z07:00", .isoZone),
    ("Z07", .isoZone)]

/-- A fraction of a second at the start of a layout: a mark, and digits that are
all zero or all nine and that no other digit follows. -/
def fraction? : List Char → Option (LayoutPart × Nat)
  | mark :: d :: rest =>
    if (mark == '.' || mark == ',') && (d == '0' || d == '9') then
      let digits := (d :: rest).takeWhile (· == d)
      match (d :: rest).dropWhile (· == d) with
      | c :: _ => if c.isDigit then none
        else some (.fraction mark digits.length (d == '9'), digits.length + 1)
      | [] => some (.fraction mark digits.length (d == '9'), digits.length + 1)
    else none
  | _ => none

/-- A part whose text is fixed, at the start of a layout. -/
def fixedPart? (cs : List Char) : Option (LayoutPart × Nat) :=
  (fixedParts.find? fun p => p.1.toList.isPrefixOf cs).map fun p => (p.2, p.1.length)

/-- The part at the start of a layout and how many characters it takes. A short
name counts only when no lower-case letter follows, and a blank day in front of
a year is an underscore. -/
def nextPart (cs : List Char) : LayoutPart × Nat :=
  match cs with
  | [] => (.literal ' ', 0)
  | 'J' :: 'a' :: 'n' :: rest =>
    match fixedPart? cs with
    | some p => p
    | none => if startsLower rest then (.literal 'J', 1) else (.month, 3)
  | 'M' :: 'o' :: 'n' :: rest =>
    match fixedPart? cs with
    | some p => p
    | none => if startsLower rest then (.literal 'M', 1) else (.weekday, 3)
  | '_' :: '2' :: rest =>
    if "006".toList.isPrefixOf rest then (.literal '_', 1) else (.underDay, 2)
  | c :: _ =>
    match fraction? cs with
    | some p => p
    | none => (fixedPart? cs).getD (.literal c, 1)

/-- The parts of a layout of at most `fuel` characters. -/
def layoutPartsWithin : Nat → List Char → List LayoutPart
  | 0, _ => []
  | _, [] => []
  | fuel + 1, cs =>
    let (part, length) := nextPart cs
    part :: layoutPartsWithin fuel (cs.drop length)

/-- The parts of a layout. -/
def layoutParts (layout : String) : List LayoutPart :=
  layoutPartsWithin layout.length layout.toList

/-- A number filled up on the left to a width. -/
def padded (fill : Char) (width n : Nat) : String :=
  let digits := digitsOf n
  String.ofList (List.replicate (width - digits.length) fill ++ digits)

/-- A year with four digits at least. -/
def yearText (year : Int) : String :=
  (if year < 0 then "-" else "") ++ padded '0' 4 year.natAbs

/-- A fraction of a second. -/
def fractionText (mark : Char) (digits : Nat) (trim : Bool) (nanosecond : Nat) : String :=
  if trim && nanosecond == 0 then ""
  else
    let ds := (padded '0' 9 nanosecond).toList.take digits
    let ds := if trim then (ds.reverse.dropWhile (· == '0')).reverse else ds
    if trim && ds.isEmpty then "" else String.ofList (mark :: ds)

/-- The hour on a clock of twelve hours. -/
def twelveHour (hour : Nat) : Nat :=
  if hour % 12 = 0 then 12 else hour % 12

/-- A part of a layout for a point of time. -/
def LayoutPart.text (m : Moment) : LayoutPart → String
  | .literal c => String.singleton c
  | .longMonth => monthNames.getD (m.month - 1) ""
  | .month => String.ofList ((monthNames.getD (m.month - 1) "").toList.take 3)
  | .numMonth => padded '0' 1 m.month
  | .zeroMonth => padded '0' 2 m.month
  | .longWeekday => dayNames.getD m.weekday ""
  | .weekday => String.ofList ((dayNames.getD m.weekday "").toList.take 3)
  | .day => padded '0' 1 m.day
  | .underDay => padded ' ' 2 m.day
  | .zeroDay => padded '0' 2 m.day
  | .underYearDay => padded ' ' 3 m.yearDay
  | .zeroYearDay => padded '0' 3 m.yearDay
  | .hour => padded '0' 2 m.hour
  | .hour12 => padded '0' 1 (twelveHour m.hour)
  | .zeroHour12 => padded '0' 2 (twelveHour m.hour)
  | .minute => padded '0' 1 m.minute
  | .zeroMinute => padded '0' 2 m.minute
  | .second => padded '0' 1 m.second
  | .zeroSecond => padded '0' 2 m.second
  | .longYear => yearText m.year
  | .year => padded '0' 2 (m.year.natAbs % 100)
  | .upperHalf => if 12 ≤ m.hour then "PM" else "AM"
  | .lowerHalf => if 12 ≤ m.hour then "pm" else "am"
  | .zoneName => "UTC"
  | .isoZone => "Z"
  | .numZone text => text
  | .fraction mark digits trim => fractionText mark digits trim m.nanosecond

/-- A point of time by a layout. -/
def formatTime (layout : String) (t : Int) : String :=
  let m := Moment.ofNanoseconds t
  "".intercalate ((layoutParts layout).map (·.text m))

/-! ### Layouts by name -/

/-- Date, time and zone to the second. -/
def secondsLayout : String := "2006-01-02T15:04:05Z07:00"

/-- Date, time and zone with a fraction of the second as long as needed. -/
def nanosecondsLayout : String := "2006-01-02T15:04:05.999999999Z07:00"

/-- The layouts that have names. -/
def namedLayouts : List (String × String) :=
  [("rfc3339", secondsLayout), ("rfc3339nano", nanosecondsLayout),
    ("ansic", "Mon Jan _2 15:04:05 2006"), ("unixdate", "Mon Jan _2 15:04:05 MST 2006"),
    ("rubydate", "Mon Jan 02 15:04:05 -0700 2006"), ("rfc822", "02 Jan 06 15:04 MST"),
    ("rfc822z", "02 Jan 06 15:04 -0700"), ("rfc850", "Monday, 02-Jan-06 15:04:05 MST"),
    ("kitchen", "3:04PM"), ("datetime", "2006-01-02 15:04:05"), ("timeonly", "15:04:05"),
    ("stamp", "Jan _2 15:04:05"), ("none", ""),
    ("stampmilli", "Jan _2 15:04:05.000"), ("ms", "Jan _2 15:04:05.000"),
    ("stampmicro", "Jan _2 15:04:05.000000"), ("us", "Jan _2 15:04:05.000000"),
    ("stampnano", "Jan _2 15:04:05.000000000"), ("ns", "Jan _2 15:04:05.000000000")]

/-- How a logger writes the time of a record. -/
inductive TimeStyle where
  /-- Not at all. -/
  | none
  | layout (text : String)
deriving Repr, DecidableEq, Inhabited

/-- The characters of a layout name: small letters and digits. -/
def isKeyChar (c : Char) : Bool :=
  ('a' ≤ c && c ≤ 'z') || ('0' ≤ c && c ≤ '9')

/-- The style that a text asks for: a layout by name, whatever its case and
punctuation, or the text itself as a layout. Text without letters and digits asks
for no time. -/
def TimeStyle.parse (s : String) : TimeStyle :=
  let key := String.ofList ((s.toList.map lowerChar).filter isKeyChar)
  if key = "" then .none
  else
    match namedLayouts.find? fun p => p.1 = key with
    | some (_, "") => .none
    | some (_, found) => .layout found
    | Option.none => .layout s

/-- A point of time in a style; the empty text is no time. -/
def TimeStyle.format (style : TimeStyle) (t : Int) : String :=
  match style with
  | .none => ""
  | .layout text => formatTime text t

/-- A point of time to the millisecond. -/
def millisecondsText (t : Int) : String :=
  formatTime "2006-01-02T15:04:05.000Z07:00" t

/-! ### Spans of time -/

/-- A number of units with a fraction of a given number of decimals, without
trailing zeros. -/
def decimalText (n decimals : Nat) : String :=
  let fraction := (padded '0' decimals (n % Nat.pow 10 decimals)).toList
  let fraction := if decimals = 0 then [] else (fraction.reverse.dropWhile (· == '0')).reverse
  toString (n / Nat.pow 10 decimals) ++
    (if fraction.isEmpty then "" else "." ++ String.ofList fraction)

/-- A span of time without its sign. -/
def spanText (n : Nat) : String :=
  if n < 1000 then toString n ++ "ns"
  else if n < 1000000 then decimalText n 3 ++ "µs"
  else if n < 1000000000 then decimalText n 6 ++ "ms"
  else
    let seconds := n / 1000000000
    let rest := decimalText (n % 60000000000) 9 ++ "s"
    if seconds < 60 then rest
    else if seconds < 3600 then toString (seconds / 60) ++ "m" ++ rest
    else toString (seconds / 3600) ++ "h" ++ toString (seconds / 60 % 60) ++ "m" ++ rest

/-- A span of time in the largest fitting units. -/
def durationText (nanoseconds : Int) : String :=
  if nanoseconds = 0 then "0s"
  else (if nanoseconds < 0 then "-" else "") ++ spanText nanoseconds.natAbs

end TagScript.Log
