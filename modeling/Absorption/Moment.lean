import Absorption.Text.Digits

set_option autoImplicit false

/-!
Days of the calendar, with or without a time of the day. A time may name its distance from the
universal time; two such times are the same if they are the same instant (`Moment.same`).
-/

namespace Absorption

/-- A day of the Gregorian calendar. -/
structure Day where
  year : Nat
  month : Nat
  day : Nat
  deriving DecidableEq, Repr

/-- A time of a day. -/
structure Clock where
  hour : Nat
  minute : Nat
  second : Nat
  /-- Millionths of a second. -/
  micro : Nat
  /-- Minutes that the clock is ahead of the universal time. -/
  zone : Option Int
  deriving DecidableEq, Repr

/-- A day, or a time of a day. -/
structure Moment where
  day : Day
  clock : Option Clock
  deriving DecidableEq, Repr

namespace Day

def isLeap (year : Nat) : Bool := year % 4 = 0 && (year % 100 ≠ 0 || year % 400 = 0)

/-- The number of days of a month. -/
def lengthOfMonth (year month : Nat) : Nat :=
  match month with
  | 2 => if isLeap year then 29 else 28
  | 4 | 6 | 9 | 11 => 30
  | _ => 31

/-- The day with a year, a month and a number in the month, if the calendar has it. Years count from
one. -/
def ofParts? (year month day : Nat) : Option Day :=
  if 1 ≤ year ∧ 1 ≤ month ∧ month ≤ 12 ∧ 1 ≤ day ∧ day ≤ lengthOfMonth year month then
    some ⟨year, month, day⟩
  else none

/-- The number of days from the first one of the calendar on, which is one. -/
def number (d : Day) : Nat :=
  let years := d.year - 1
  let months := (List.range (d.month - 1)).map fun m => lengthOfMonth d.year (m + 1)
  365 * years + years / 4 - years / 100 + years / 400 + months.foldl (· + ·) 0 + d.day

end Day

namespace Clock

/-- The time with these parts, if there is one on a clock. A zone is less than a day away. -/
def ofParts? (hour minute second micro : Nat) (zone : Option Int) : Option Clock :=
  if hour < 24 ∧ minute < 60 ∧ second < 60 ∧ micro < 1000000 ∧
      zone.all (fun z => -1440 < z && z < 1440) then
    some ⟨hour, minute, second, micro, zone⟩
  else none

/-- Seconds from the beginning of the day on. -/
def seconds (c : Clock) : Nat := (c.hour * 60 + c.minute) * 60 + c.second

end Clock

namespace Moment

/-- Millionths of a second up to a time of a day whose zone is known. -/
def instant (d : Day) (c : Clock) (zone : Int) : Int :=
  ((d.number * 86400 + c.seconds : Nat) - zone * 60) * 1000000 + c.micro

/-- Whether two moments are the same. A day is no time, and times without a zone are compared among
themselves. -/
def same (a b : Moment) : Bool :=
  match a.clock, b.clock with
  | some c, some d => match c.zone, d.zone with
    | some y, some z => instant a.day c y == instant b.day d z
    | _, _ => a == b
  | _, _ => a == b

/-- A number with zeros in front, to fill `width` digits. -/
def filled (width n : Nat) : List Char :=
  let ds := Text.digits n
  List.replicate (width - ds.length) '0' ++ ds

/-- The text of a zone: a sign, hours and minutes. -/
def zoneText (zone : Int) : List Char :=
  (if zone < 0 then '-' else '+') :: filled 2 (zone.natAbs / 60) ++
    ':' :: filled 2 (zone.natAbs % 60)

/-- The text of a day: year, month and day. -/
def dayText (d : Day) : List Char :=
  filled 4 d.year ++ '-' :: filled 2 d.month ++ '-' :: filled 2 d.day

/-- The text of a time. Parts of a second are written if there are any. -/
def clockText (c : Clock) : List Char :=
  filled 2 c.hour ++ ':' :: filled 2 c.minute ++ ':' :: filled 2 c.second ++
    (if c.micro = 0 then [] else '.' :: filled 6 c.micro) ++ (c.zone.map zoneText).getD []

/-- The text of a moment, with a blank between day and time. -/
def text (m : Moment) : List Char :=
  match m.clock with
  | none => dayText m.day
  | some c => dayText m.day ++ ' ' :: clockText c

/-- Numbers with commas between them. -/
def listed (ns : List Nat) : List Char := [',', ' '].intercalate (ns.map Text.digits)

/-- A zone as a value: the universal time, or a distance in days and seconds, of which the seconds
are not negative. -/
def shownZone (zone : Int) : List Char :=
  if zone = 0 then "datetime.timezone.utc".toList
  else if zone < 0 then
    "datetime.timezone(datetime.timedelta(days=-1, seconds=".toList ++
      Text.integer (86400 + zone * 60) ++ "))".toList
  else
    "datetime.timezone(datetime.timedelta(seconds=".toList ++ Text.integer (zone * 60) ++
      "))".toList

/-- A moment as a value, with its parts. Seconds and millionths are left out where they and all
behind them are zero. -/
def shown (m : Moment) : List Char :=
  let day := [m.day.year, m.day.month, m.day.day]
  match m.clock with
  | none => "datetime.date(".toList ++ listed day ++ [')']
  | some c =>
    let fine :=
      if c.micro ≠ 0 then [c.second, c.micro] else if c.second ≠ 0 then [c.second] else []
    "datetime.datetime(".toList ++ listed (day ++ [c.hour, c.minute] ++ fine) ++
      (c.zone.map fun z => ", tzinfo=".toList ++ shownZone z).getD [] ++ [')']

end Moment
end Absorption
