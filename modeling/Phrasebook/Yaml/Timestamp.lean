import Phrasebook.Decimal.Numeral

/-!
# Timestamps

Dates, with an optional time of day and zone.

## Contents
- `Timestamp`: the fields of a timestamp as they are written
- `Timestamp.parse?`: from a text
- `Timestamp.isPlain`: whether a text without quotes means a timestamp
- `Timestamp.isValid`: whether there is such a day and time
- `Timestamp.same`: whether two timestamps are the same key
- `Timestamp.shown`: how a timestamp is shown as a key
-/

namespace Phrasebook.Yaml

/-- The zone of a time. -/
inductive Zone where
  | utc
  /-- Hours and minutes before or after universal time. -/
  | offset (negative : Bool) (hours minutes : Nat)
  deriving DecidableEq, Repr

namespace Zone

/-- The minutes between universal time and the time of the zone. -/
def minutes : Zone → Int
  | utc => 0
  | offset negative h m =>
    let total : Int := h * 60 + m
    if negative then -total else total

end Zone

/-- A time of day. -/
structure TimeOfDay where
  hour : Nat
  minute : Nat
  second : Nat
  /-- The millionths of a second. -/
  micro : Nat
  /-- The zone, if one is given. -/
  zone : Option Zone
  deriving DecidableEq, Repr

/-- A timestamp as it is written. -/
structure Timestamp where
  year : Nat
  month : Nat
  day : Nat
  /-- Whether month and day have two digits each. -/
  padded : Bool
  /-- The time of day, if one is given. -/
  time : Option TimeOfDay
  deriving DecidableEq, Repr

namespace Timestamp

/-- Reads digits: at least and at most so many. -/
def digits? (least most : Nat) (cs : List Char) : Option (List Char × List Char) :=
  let ds := (cs.take most).takeWhile Char.isDigit
  if ds.length < least then none else some (ds, cs.drop ds.length)

/-- Reads a given character. -/
def mark? (c : Char) : List Char → Option (List Char)
  | [] => none
  | c' :: cs => if c' = c then some cs else none

/-- The millionths of a second that the digits of a fraction give. -/
def microOf (ds : List Char) : Nat :=
  let ds := ds.take 6
  natOfDigits 10 ds * Nat.pow 10 (6 - ds.length)

/-- Reads a zone with the blanks before it, up to the end of the text. -/
def zone? (cs : List Char) : Option (Option Zone) :=
  if cs.isEmpty then some none
  else
    match cs.dropWhile fun c => c = ' ' || c = '\t' with
    | ['Z'] => some (some .utc)
    | sign :: rest =>
      if sign = '+' || sign = '-' then do
        let (h, rest) ← digits? 1 2 rest
        match rest with
        | [] => some (some (.offset (sign = '-') (natOfDigits 10 h) 0))
        | _ =>
          let rest ← mark? ':' rest
          let (m, rest) ← digits? 2 2 rest
          if rest.isEmpty then
            some (some (.offset (sign = '-') (natOfDigits 10 h) (natOfDigits 10 m)))
          else none
      else none
    | [] => none

/-- Reads a time of day with what separates it from the date, up to the end of the text. -/
def time? (cs : List Char) : Option TimeOfDay := do
  let isGap (c : Char) : Bool := c = ' ' || c = '\t'
  let cs ← match cs with
    | c :: rest =>
      if c = 'T' || c = 't' then some rest
      else if isGap c then some (rest.dropWhile isGap)
      else none
    | [] => none
  let (h, cs) ← digits? 1 2 cs
  let cs ← mark? ':' cs
  let (m, cs) ← digits? 2 2 cs
  let cs ← mark? ':' cs
  let (s, cs) ← digits? 2 2 cs
  let (fraction, cs) := match cs with
    | '.' :: rest => (rest.takeWhile Char.isDigit, rest.dropWhile Char.isDigit)
    | cs => ([], cs)
  let zone ← zone? cs
  return ⟨natOfDigits 10 h, natOfDigits 10 m, natOfDigits 10 s, microOf fraction, zone⟩

/-- Reads a timestamp that fills a text. -/
def parse? (cs : List Char) : Option Timestamp := do
  let (y, cs) ← digits? 4 4 cs
  let cs ← mark? '-' cs
  let (m, cs) ← digits? 1 2 cs
  let cs ← mark? '-' cs
  let (d, cs) ← digits? 1 2 cs
  let time ← if cs.isEmpty then some none else (time? cs).map some
  return ⟨natOfDigits 10 y, natOfDigits 10 m, natOfDigits 10 d, m.length = 2 && d.length = 2, time⟩

/-- Whether a text without quotes means the timestamp: without a time, month and day need two digits. -/
def isPlain (t : Timestamp) : Bool := t.padded || t.time.isSome

/-- Whether a year has a leap day. -/
def isLeapYear (year : Nat) : Bool := year % 4 = 0 && (year % 100 ≠ 0 || year % 400 = 0)

/-- The number of days of a month. -/
def daysOfMonth (year month : Nat) : Nat :=
  if month = 2 then if isLeapYear year then 29 else 28
  else if [4, 6, 9, 11].contains month then 30
  else 31

/-- Whether there is such a time of day; a zone is less than a day off. -/
def isValidTime (t : TimeOfDay) : Bool :=
  t.hour < 24 && t.minute < 60 && t.second < 60 &&
    t.zone.all fun zone => zone.minutes.natAbs < 1440

/-- Whether there is such a day and time. -/
def isValid (t : Timestamp) : Bool :=
  1 ≤ t.year && 1 ≤ t.month && t.month ≤ 12 && 1 ≤ t.day && t.day ≤ daysOfMonth t.year t.month &&
    t.time.all isValidTime

/-! ## As keys -/

/-- The number of days up to a day, from the start of the first year on. -/
def dayNumber (year month day : Nat) : Nat :=
  let before := year - 1
  let months := (List.range (month - 1)).foldl (fun n m => n + daysOfMonth year (m + 1)) 0
  365 * before + before / 4 - before / 100 + before / 400 + months + day

/-- The millionths of a second up to the time that a clock shows, from the start of the first year on. -/
def clock (t : Timestamp) (time : TimeOfDay) : Nat :=
  let minutes := (dayNumber t.year t.month t.day * 24 + time.hour) * 60 + time.minute
  (minutes * 60 + time.second) * 1000000 + time.micro

/-- Whether two timestamps are the same key. Times are compared by their clocks, or by the moment if
both have a zone. -/
def same (s t : Timestamp) : Bool :=
  match s.time, t.time with
  | none, none => dayNumber s.year s.month s.day = dayNumber t.year t.month t.day
  | some a, some b =>
    match a.zone, b.zone with
    | none, none => s.clock a = t.clock b
    | some y, some z =>
      (s.clock a : Int) - y.minutes * 60000000 = (t.clock b : Int) - z.minutes * 60000000
    | _, _ => false
  | _, _ => false

/-- How a zone is shown: as the time by which it is off. -/
def shownZone (zone : Zone) : String :=
  let seconds := zone.minutes * 60
  if seconds = 0 then "datetime.timezone.utc"
  else
    let days := if seconds < 0 then "days=-1, " else ""
    s!"datetime.timezone(datetime.timedelta({days}seconds={seconds.emod 86400}))"

/-- How a timestamp is shown as a key; seconds that are zero are left out. -/
def shown (t : Timestamp) : String :=
  match t.time with
  | none => s!"datetime.date({t.year}, {t.month}, {t.day})"
  | some time =>
    let parts := [t.year, t.month, t.day, time.hour, time.minute] ++
      (if time.micro ≠ 0 then [time.second, time.micro]
        else if time.second ≠ 0 then [time.second]
        else [])
    let zone := time.zone.elim "" fun zone => ", tzinfo=" ++ shownZone zone
    "datetime.datetime(" ++ ", ".intercalate (parts.map toString) ++ zone ++ ")"

end Timestamp

end Phrasebook.Yaml
