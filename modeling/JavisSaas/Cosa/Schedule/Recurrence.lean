import JavisSaas.Lib.ApiError
import JavisSaas.Lib.LocalTime

/-!
# When a schedule runs next

`calculateNextRun` of `services/cosa/services/schedule/schedule-recurrence.engine.ts`. A `Date` is its
number of milliseconds, `none` if it is invalid; `Intl.DateTimeFormat` shows the clock of a zone.
-/

namespace JavisSaas.Cosa.Schedule

open JavisSaas.Lib

inductive ScheduleKind
  | oneTime
  | daily
  | weekdays
  deriving DecidableEq

inductive RecurrenceError
  | api (error : ApiError)
  /-- The `RangeError` of a `Date` that is invalid and formatted. -/
  | invalidTime
  deriving DecidableEq

/-! ## Dates -/

/-- `new Date(t)` -/
def newDate (t : ℤ) : Option ℤ := if t.natAbs ≤ 8640000000000000 then some t else none

/-- Months count from 0, and the years 0 to 99 are those of the last century. -/
def dateUtc (year month day hour minute : ℤ) : Option ℤ :=
  let fullYear := if 0 ≤ year ∧ year ≤ 99 then 1900 + year else year
  newDate (Civil.toDays ⟨fullYear, month + 1, day⟩ * msPerDay + hour * 3600000 + minute * 60000)

/-- The parts of a date that are read. -/
structure DateParts where
  year : ℤ
  month : ℤ
  day : ℤ
  hour : ℤ
  minute : ℤ

/-- In `en-US` years before the first count back from 1, and midnight is 24 o'clock. -/
def formatToParts (tz : Zone) : Option ℤ → Except RecurrenceError DateParts
  | none => .error .invalidTime
  | some t =>
    let date := Civil.ofDays (tz.day t)
    let hour := tz.timeOfDay t / 3600000
    .ok {
      year := if 0 < date.year then date.year else 1 - date.year
      month := date.month
      day := date.day
      hour := if hour = 0 then 24 else hour
      minute := tz.timeOfDay t % 3600000 / 60000 }

def getUtcDateFromTzWallClock (year month day hour minute : ℤ) (tz : Zone) :
    Except RecurrenceError (Option ℤ) := do
  let baseUtc := dateUtc year month day hour minute
  let parts ← formatToParts tz baseUtc
  let hTz := if parts.hour = 24 then 0 else parts.hour
  let asUtc := dateUtc parts.year (parts.month - 1) parts.day hTz parts.minute
  return do
    let asUtc ← asUtc
    let baseUtc ← baseUtc
    let offsetMs := asUtc - baseUtc
    newDate (baseUtc - offsetMs)

/-- The weekday of a day, in the format `short`. -/
def shortWeekday (day : ℤ) : String :=
  ["Mon", "Tue", "Wed", "Thu", "Fri", "Sat", "Sun"].getD ((day + 3) % 7).toNat ""

def getTzDayOfWeek (date : ℤ) (tz : Zone) : ℤ :=
  match shortWeekday (tz.day date) with
  | "Mon" => 1
  | "Tue" => 2
  | "Wed" => 3
  | "Thu" => 4
  | "Fri" => 5
  | "Sat" => 6
  | "Sun" => 7
  | _ => 1

/-! ## The next run -/

/-- The wall time, on the date that it is `offsetDays` days of 24 hours after `now`. -/
def targetUtc (tz : Zone) (h m now : ℤ) (offsetDays : ℕ) : Except RecurrenceError (Option ℤ) := do
  let parts ← formatToParts tz (newDate (now + offsetDays * 86400000))
  getUtcDateFromTzWallClock parts.year (parts.month - 1) parts.day h m tz

/-- The instant is returned. -/
def Takes (tz : Zone) (kind : ScheduleKind) (weekdays : Option (List ℤ)) (now target : ℤ) : Prop :=
  now < target ∧ match kind with
    | .oneTime => False
    | .daily => True
    | .weekdays => ∃ days ∈ weekdays, days.length > 0 ∧ getTzDayOfWeek target tz ∈ days

instance (tz : Zone) (kind : ScheduleKind) (weekdays : Option (List ℤ)) (now target : ℤ) :
    Decidable (Takes tz kind weekdays now target) := by
  unfold Takes
  cases kind <;> infer_instance

/-- The loop over `offsetDays`, with `tests` rounds to go. -/
def searchDays (tz : Zone) (kind : ScheduleKind) (h m : ℤ) (weekdays : Option (List ℤ)) (now : ℤ) :
    (tests : ℕ) → (offsetDays : ℕ) → Except RecurrenceError (Option ℤ)
  | 0, _ => .ok none
  | tests + 1, offsetDays =>
    match targetUtc tz h m now offsetDays with
    | .error e => .error e
    | .ok none => searchDays tz kind h m weekdays now tests (offsetDays + 1)
    | .ok (some target) =>
      if Takes tz kind weekdays now target then .ok (some target)
      else searchDays tz kind h m weekdays now tests (offsetDays + 1)

/-- `zones` are the names that `validateIanaTimezone` lets pass. -/
def calculateNextRun (zones : String → Option Zone) (kind : ScheduleKind) (tz : String)
    (hour minute : Option ℤ) (weekdays : Option (List ℤ)) (now : ℤ) :
    Except RecurrenceError (Option ℤ) :=
  if kind = .oneTime then .ok none
  else
    match zones tz with
    | none => .error (.api (.invalidArgument ("invalid IANA timezone: '" ++ tz ++ "'")))
    | some zone =>
      let h := hour.getD 0
      let m := minute.getD 0
      if h < 0 ∨ h > 23 ∨ m < 0 ∨ m > 59 then
        .error (.api (.invalidArgument
          ("invalid hour (" ++ toString h ++ ") or minute (" ++ toString m ++ ")")))
      else searchDays zone kind h m weekdays now 15 0

end JavisSaas.Cosa.Schedule
