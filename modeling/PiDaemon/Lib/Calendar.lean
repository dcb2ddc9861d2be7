import PiDaemon.Lib.JsString

/-!
# The UTC calendar

Days and times of instants in milliseconds since the epoch, in the proleptic
Gregorian calendar and without leap seconds.

* `dateOf_february`: February has no day after the 29th.
-/

namespace PiDaemon.Lib

def msPerDay : Int := 86400000

/-- The number of the first day of a year. -/
def dayFromYear (year : Int) : Int :=
  365 * (year - 1970) + (year - 1969) / 4 - (year - 1901) / 100 + (year - 1601) / 400

def leapDays (year : Int) : Nat := (dayFromYear (year + 1) - dayFromYear year - 365).toNat

def yearFromDay (day : Int) : Int :=
  let year := 1970 + day * 400 / 146097
  if dayFromYear (year + 1) ≤ day then year + 1
  else if day < dayFromYear year then year - 1
  else year

def dayWithinYear (day : Int) : Nat := (day - dayFromYear (yearFromDay day)).toNat

/-- The days of a year before a month, from January as 1. -/
def monthStart (leap : Nat) : Nat → Nat
  | 1 => 0
  | 2 => 31
  | 3 => 59 + leap
  | 4 => 90 + leap
  | 5 => 120 + leap
  | 6 => 151 + leap
  | 7 => 181 + leap
  | 8 => 212 + leap
  | 9 => 243 + leap
  | 10 => 273 + leap
  | 11 => 304 + leap
  | _ => 334 + leap

def monthFrom (leap dayInYear : Nat) : Nat :=
  if dayInYear < 31 then 1
  else if dayInYear < 59 + leap then 2
  else if dayInYear < 90 + leap then 3
  else if dayInYear < 120 + leap then 4
  else if dayInYear < 151 + leap then 5
  else if dayInYear < 181 + leap then 6
  else if dayInYear < 212 + leap then 7
  else if dayInYear < 243 + leap then 8
  else if dayInYear < 273 + leap then 9
  else if dayInYear < 304 + leap then 10
  else if dayInYear < 334 + leap then 11
  else 12

structure UtcDate where
  year : Int
  month : Nat
  day : Nat
  /-- From Sunday as 0. -/
  weekday : Nat
  hour : Nat
  minute : Nat
  second : Nat
  millisecond : Nat
  deriving DecidableEq

def utcDate (ms : Int) : UtcDate :=
  let day := ms / msPerDay
  let time := (ms % msPerDay).toNat
  let year := yearFromDay day
  let leap := leapDays year
  let month := monthFrom leap (dayWithinYear day)
  { year
    month
    day := dayWithinYear day - monthStart leap month + 1
    weekday := ((day + 4) % 7).toNat
    hour := time / 3600000
    minute := time / 60000 % 60
    second := time / 1000 % 60
    millisecond := time % 1000 }

theorem leapDays_le (year : Int) : leapDays year ≤ 1 := by
  unfold leapDays dayFromYear
  omega

theorem monthFrom_two {leap dayInYear : Nat} (h : monthFrom leap dayInYear = 2) :
    31 ≤ dayInYear ∧ dayInYear < 59 + leap := by
  unfold monthFrom at h
  repeat' split at h
  all_goals omega

theorem utcDate_february {ms : Int} (h : (utcDate ms).month = 2) : (utcDate ms).day ≤ 29 := by
  have hrange := monthFrom_two h
  have hleap := leapDays_le (yearFromDay (ms / msPerDay))
  unfold utcDate at h ⊢
  simp only at h ⊢
  rw [h, monthStart]
  omega

/-! ## Text -/

/-- The last `width` decimal digits. -/
def digits (width n : Nat) : JsString :=
  match width with
  | 0 => []
  | width + 1 => digits width (n / 10) ++ [(0x30 + n % 10).toUInt16]

/-- `new Date(ms).toISOString()` for a year of four digits, with or without milliseconds. -/
def isoText (ms : Int) (short : Bool) : JsString :=
  let date := utcDate ms
  digits 4 date.year.toNat ++ text "-" ++ digits 2 date.month ++ text "-" ++ digits 2 date.day ++
    text "T" ++ digits 2 date.hour ++ text ":" ++ digits 2 date.minute ++ text ":" ++
    digits 2 date.second ++ (if short then [] else text "." ++ digits 3 date.millisecond) ++ text "Z"

example : isoText 951827696789 false = text "2000-02-29T12:34:56.789Z" := by decide +kernel

end PiDaemon.Lib
