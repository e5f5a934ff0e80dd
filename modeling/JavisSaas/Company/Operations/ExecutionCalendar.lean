import Mathlib
import JavisSaas.Lib.Fallible
import JavisSaas.Lib.LocalTime
import JavisSaas.Company.Finance.Money

/-!
# The calendar of execution cycles

`services/company/operations/services/execution-calendar.ts`. A local date is a text.

* `calendarLaw_iff`: for an accepted date the laws of the calendar hold, if and only if it has no
  white space around it and its year is written without a leading zero.
* `not_calendarLaw_year999`: a date of the year 999 comes back with three digits.
-/

namespace JavisSaas.Company.Operations

open JavisSaas.Lib
open Finance (trim digitsValue)
open Civil (day_ofDays le_year_ofDays le_year_ofDays_iff month_ofDays ofDays toDays toDays_ofDays)

/-! ## Dates of the platform -/

/-- Months count from 1 here; the years before 100 are those of the century of 1900. -/
def dateUTC (year month day : ℤ) : ℤ :=
  Civil.toDays ⟨if 0 ≤ year ∧ year ≤ 99 then 1900 + year else year, month, day⟩ * msPerDay

/-- `getUTCFullYear()`, `getUTCMonth() + 1` and `getUTCDate()`. -/
def civilOfMs (ms : ℤ) : Civil := Civil.ofDays (ms / msPerDay)

/-- The longest time from 1970 that a `Date` can have. -/
def maxTime : ℕ := 8640000000000000

/-! ## The source -/

/-- `/^(\d{4})-(\d{2})-(\d{2})$/` -/
def matchLocalDate (cs : List Char) : Option (ℕ × ℕ × ℕ) :=
  let year := cs.take 4
  let month := (cs.drop 5).take 2
  let day := cs.drop 8
  if cs = year ++ '-' :: (month ++ '-' :: day) ∧ year.length = 4 ∧ month.length = 2 ∧
      day.length = 2 ∧ (year ++ month ++ day).all Char.isDigit then
    some (digitsValue year, digitsValue month, digitsValue day)
  else none

def validateLocalDateString (dateStr : String) : Except ApiError Civil := do
  require (dateStr ≠ "")
    (.invalidArgument "Date string must be a non-empty string in YYYY-MM-DD format")
  match matchLocalDate (trim dateStr) with
  | none =>
    throw (.invalidArgument ("Invalid date format '" ++ dateStr ++ "', expected YYYY-MM-DD"))
  | some (year, month, day) =>
    require (1 ≤ month ∧ month ≤ 12)
      (.invalidArgument ("Invalid month in date '" ++ dateStr ++ "'"))
    require (civilOfMs (dateUTC year month day) = ⟨year, month, day⟩)
      (.invalidArgument ("Date '" ++ dateStr ++ "' does not exist on the calendar"))
    return ⟨year, month, day⟩

def localDateToEpochDays (dateStr : String) : Except ApiError ℤ := do
  let date ← validateLocalDateString dateStr
  return dateUTC date.year date.month date.day / msPerDay

/-- The text of a date: only its month and its day are filled up with zeros. -/
def localDateText (date : Civil) : List Char :=
  (toString date.year).toList ++ '-' :: (padZeros 2 (toString date.month).toList ++
    '-' :: padZeros 2 (toString date.day).toList)

def epochDaysToLocalDate (epochDays : ℤ) : String :=
  let ms := epochDays * msPerDay
  if ms.natAbs ≤ maxTime then String.ofList (localDateText (civilOfMs ms)) else "NaN-NaN-NaN"

def addDaysToLocalDate (dateStr : String) (days : ℤ) : Except ApiError String := do
  let epochDays ← localDateToEpochDays dateStr
  return epochDaysToLocalDate (epochDays + days)

def validateDurationWeeks (durationWeeks : ℤ) : Except ApiError Unit :=
  require (0 < durationWeeks)
    (.invalidArgument ("durationWeeks must be a positive integer, got " ++ toString durationWeeks))

def calculateCycleEndDateExclusive (startLocalDate : String) (durationWeeks : ℤ) :
    Except ApiError String := do
  validateDurationWeeks durationWeeks
  addDaysToLocalDate startLocalDate (durationWeeks * 7)

def resolveExecutionWeek (startLocalDate : String) (durationWeeks : ℤ) (localDate : String) :
    Except ApiError (Option ℤ) := do
  validateDurationWeeks durationWeeks
  let startDays ← localDateToEpochDays startLocalDate
  let targetDays ← localDateToEpochDays localDate
  let diffDays := targetDays - startDays
  let weekNo := diffDays / 7 + 1
  return if diffDays < 0 then none
    else if durationWeeks * 7 ≤ diffDays then none
    else if weekNo < 1 ∨ durationWeeks < weekNo then none
    else some weekNo

/-! ## The laws -/

/-- The year of the day is written with four digits. -/
def FourDigits (day : ℤ) : Prop :=
  1000 ≤ (Civil.ofDays day).year ∧ (Civil.ofDays day).year ≤ 9999

/-- The weeks of a cycle that starts on a day. -/
structure WeeksLaw (startLocalDate : String) (day durationWeeks : ℤ) : Prop where
  /-- A week is assigned exactly from the start to the end. -/
  assigned : ∃ endDate endDay,
    calculateCycleEndDateExclusive startLocalDate durationWeeks = .ok endDate ∧
      localDateToEpochDays endDate = .ok endDay ∧
      ∀ localDate target, localDateToEpochDays localDate = .ok target →
        ((∃ week, resolveExecutionWeek startLocalDate durationWeeks localDate = .ok (some week)) ↔
          day ≤ target ∧ target < endDay)
  bounded : ∀ localDate week,
    resolveExecutionWeek startLocalDate durationWeeks localDate = .ok (some week) →
      1 ≤ week ∧ week ≤ durationWeeks
  /-- The dates of a week are seven days that follow each other. -/
  seven : ∀ week, 1 ≤ week → week ≤ durationWeeks →
    {target | ∃ localDate, localDateToEpochDays localDate = .ok target ∧
      resolveExecutionWeek startLocalDate durationWeeks localDate = .ok (some week)} =
        Set.Ico (day + 7 * (week - 1)) (day + 7 * week)

/-- The laws of the calendar for a text that stands for a day. -/
structure CalendarLaw (dateStr : String) (day : ℤ) : Prop where
  roundTrip : epochDaysToLocalDate day = dateStr
  add : ∀ m n, FourDigits (day + m) → FourDigits (day + m + n) →
    (addDaysToLocalDate dateStr m >>= (addDaysToLocalDate · n)) = addDaysToLocalDate dateStr (m + n)
  weeks : ∀ durationWeeks, 0 < durationWeeks → FourDigits (day + 7 * durationWeeks) →
    WeeksLaw dateStr day durationWeeks

/-- No white space around the date, and no zero in front of it. -/
def Written (dateStr : String) : Prop :=
  trim dateStr = dateStr.toList ∧ dateStr.toList.head? ≠ some '0'

/-! ## The text of a day -/

/-- The ten characters of a day. -/
def dateChars (day : ℤ) : List Char :=
  let date := Civil.ofDays day
  padZeros 4 (Nat.toDigits 10 date.year.toNat) ++
    '-' :: (padZeros 2 (Nat.toDigits 10 date.month.toNat) ++
      '-' :: padZeros 2 (Nat.toDigits 10 date.day.toNat))

section Texts

variable {cs year month day : List Char} {y m d : ℕ}

theorem matchLocalDate_append (hyear : year.length = 4) (hmonth : month.length = 2)
    (hday : day.length = 2) (hdigits : ∀ c ∈ year ++ month ++ day, c.isDigit) :
    matchLocalDate (year ++ '-' :: (month ++ '-' :: day)) =
      some (digitsValue year, digitsValue month, digitsValue day) := by
  have htake : (year ++ '-' :: (month ++ '-' :: day)).take 4 = year := List.take_left' hyear
  have hdrop : (year ++ '-' :: (month ++ '-' :: day)).drop 5 = month ++ '-' :: day := by
    rw [List.drop_append, hyear, List.drop_eq_nil_of_le (by omega)]
    rfl
  have hdrop' : (year ++ '-' :: (month ++ '-' :: day)).drop 8 = day := by
    have hthree : (month ++ '-' :: day).drop 3 = day := by
      rw [List.drop_append, hmonth, List.drop_eq_nil_of_le (by omega)]
      rfl
    calc (year ++ '-' :: (month ++ '-' :: day)).drop 8
        = ((year ++ '-' :: (month ++ '-' :: day)).drop 5).drop 3 := by rw [List.drop_drop]
      _ = day := by rw [hdrop, hthree]
  have htake' : (month ++ '-' :: day).take 2 = month := List.take_left' hmonth
  rw [matchLocalDate]
  simp only [htake, hdrop, hdrop', htake']
  rw [if_pos ⟨trivial, hyear, hmonth, hday, List.all_eq_true.mpr hdigits⟩]

theorem matchLocalDate_eq_some (h : matchLocalDate cs = some (y, m, d)) :
    ∃ year month day, cs = year ++ '-' :: (month ++ '-' :: day) ∧
      (year.length = 4 ∧ ∀ c ∈ year, c.isDigit) ∧ (month.length = 2 ∧ ∀ c ∈ month, c.isDigit) ∧
      (day.length = 2 ∧ ∀ c ∈ day, c.isDigit) ∧
      digitsValue year = y ∧ digitsValue month = m ∧ digitsValue day = d := by
  unfold matchLocalDate at h
  dsimp only at h
  split_ifs at h with hcs
  obtain ⟨hcs, hyear, hmonth, hday, hall⟩ := hcs
  have hdigits := List.all_eq_true.mp hall
  obtain ⟨rfl, hmd⟩ := Prod.mk.inj (Option.some.inj h)
  cases hmd
  refine ⟨_, _, _, hcs, ⟨hyear, fun c hc => ?_⟩, ⟨hmonth, fun c hc => ?_⟩, ⟨hday, fun c hc => ?_⟩,
    rfl, rfl, rfl⟩
  · exact hdigits c (List.mem_append_left _ (List.mem_append_left _ hc))
  · exact hdigits c (List.mem_append_left _ (List.mem_append_right _ hc))
  · exact hdigits c (List.mem_append_right _ hc)

theorem eq_padZeros {n : ℕ} (hcs : cs.length = n + 1 ∧ ∀ c ∈ cs, c.isDigit) :
    padZeros (n + 1) (Nat.toDigits 10 (digitsValue cs)) = cs := by
  have hne : cs ≠ [] := by
    rintro rfl
    cases hcs.1
  rw [← hcs.1]
  exact padZeros_toDigits hne hcs.2

theorem length_padZeros_toDigits {n k : ℕ} (hk : 0 < k) (h : n < 10 ^ k) :
    (padZeros k (Nat.toDigits 10 n)).length = k :=
  length_padZeros ((Nat.length_toDigits_le_iff (by decide) hk).mpr h)

theorem digitsValue_padZeros (n k : ℕ) : digitsValue (padZeros k (Nat.toDigits 10 n)) = n := by
  show Nat.ofDigitChars 10 (padZeros k (Nat.toDigits 10 n)) 0 = n
  rw [ofDigitChars_padZeros, Nat.ofDigitChars_ten_toDigits]

theorem trim_dateChars (day : ℤ) : trim (String.ofList (dateChars day)) = dateChars day := by
  have hspace : ∀ c ∈ dateChars day, Finance.isJsSpace c = false := by
    intro c hc
    rcases List.mem_append.mp hc with hc | hc
    · exact Finance.isJsSpace_of_isDigit (isDigit_of_mem_padZeros hc)
    rcases List.mem_cons.mp hc with rfl | hc
    · decide
    rcases List.mem_append.mp hc with hc | hc
    · exact Finance.isJsSpace_of_isDigit (isDigit_of_mem_padZeros hc)
    rcases List.mem_cons.mp hc with rfl | hc
    · decide
    · exact Finance.isJsSpace_of_isDigit (isDigit_of_mem_padZeros hc)
  rw [Finance.trim_of_forall (by rwa [String.toList_ofList]), String.toList_ofList]

end Texts

/-! ## The dates that are accepted -/

section Dates

variable {dateStr : String} {date : Civil} {day : ℤ}

theorem civilOfMs_mul (days : ℤ) : civilOfMs (days * msPerDay) = ofDays days := by
  rw [civilOfMs, Int.mul_ediv_cancel _ (by decide)]

/-- The days of an accepted year: one before 100 would be read as another. -/
theorem hundred_le_of_civilOfMs {y m d : ℕ} (hm : 1 ≤ m ∧ m ≤ 12)
    (h : civilOfMs (dateUTC y m d) = ⟨y, m, d⟩) : 100 ≤ y := by
  by_contra hlt
  have hcentury : (0 : ℤ) ≤ y ∧ (y : ℤ) ≤ 99 := by omega
  rw [dateUTC, civilOfMs_mul, if_pos hcentury] at h
  have hlate : 146097 - 719468 ≤ toDays ⟨1900 + y, m, d⟩ := by
    rw [toDays]
    dsimp only
    split_ifs <;> omega
  have hyear := le_year_ofDays hlate
  rw [h] at hyear
  dsimp only at hyear
  omega

/-- The text between white space is a day of the years from 100 to 9999. -/
theorem localDateToEpochDays_eq_ok : localDateToEpochDays dateStr = .ok day ↔
    (100 ≤ (ofDays day).year ∧ (ofDays day).year ≤ 9999) ∧
      trim dateStr = dateChars day := by
  constructor
  · intro h
    obtain ⟨date, hdate, h⟩ := bind_eq_ok.mp h
    have hdate := of_require hdate
    cases hmatch : matchLocalDate (trim dateStr) with
    | none =>
      rw [hmatch] at hdate
      cases hdate
    | some r =>
      obtain ⟨y, m, d⟩ := r
      rw [hmatch] at hdate
      obtain ⟨hm, hdate⟩ := require_bind_eq_ok.mp hdate
      obtain ⟨hcivil, hdate⟩ := require_bind_eq_ok.mp hdate
      cases hdate
      cases h
      obtain ⟨ys, ms, ds, htrim, hys, hms, hds, rfl, rfl, rfl⟩ := matchLocalDate_eq_some hmatch
      have hlt : digitsValue ys < 10 ^ 4 := hys.1 ▸ ofDigitChars_lt hys.2
      have hge := hundred_le_of_civilOfMs hm hcivil
      change ofDays _ = _ at hcivil
      rw [dateChars, htrim]
      simp only [hcivil, Int.toNat_natCast, eq_padZeros hys, eq_padZeros hms, eq_padZeros hds,
        and_true]
      omega
  · rintro ⟨⟨hge, hle⟩, htrim⟩
    have hmonth := month_ofDays day
    have hday := day_ofDays day
    have hmatch : matchLocalDate (trim dateStr) =
        some ((ofDays day).year.toNat, (ofDays day).month.toNat,
          (ofDays day).day.toNat) := by
      rw [htrim, dateChars]
      rw [matchLocalDate_append (length_padZeros_toDigits (by decide) (by omega))
        (length_padZeros_toDigits (by decide) (by omega))
        (length_padZeros_toDigits (by decide) (by omega)), digitsValue_padZeros,
        digitsValue_padZeros, digitsValue_padZeros]
      intro c hc
      rcases List.mem_append.mp hc with hc | hc
      · rcases List.mem_append.mp hc with hc | hc
        · exact isDigit_of_mem_padZeros hc
        · exact isDigit_of_mem_padZeros hc
      · exact isDigit_of_mem_padZeros hc
    have hne : dateStr ≠ "" := by
      rintro rfl
      have hlength := congrArg List.length htrim
      rw [dateChars] at hlength
      simp only [List.length_append, List.length_cons] at hlength
      cases hlength
    -- The three numbers are those of the day, so the check of the calendar passes.
    have hcast : ((ofDays day).year.toNat : ℤ) = (ofDays day).year ∧
        ((ofDays day).month.toNat : ℤ) = (ofDays day).month ∧
        ((ofDays day).day.toNat : ℤ) = (ofDays day).day :=
      ⟨Int.toNat_of_nonneg (by omega), Int.toNat_of_nonneg (by omega),
        Int.toNat_of_nonneg (by omega)⟩
    have hutc : dateUTC (ofDays day).year (ofDays day).month (ofDays day).day =
        day * msPerDay := by
      rw [dateUTC, if_neg (by omega)]
      exact congrArg (· * msPerDay) (toDays_ofDays day)
    have hvalid : validateLocalDateString dateStr = .ok (ofDays day) := by
      refine require_bind_eq_ok.mpr ⟨hne, ?_⟩
      rw [hmatch]
      refine require_bind_eq_ok.mpr ⟨by omega, require_bind_eq_ok.mpr ⟨?_, ?_⟩⟩
      · rw [hcast.1, hcast.2.1, hcast.2.2, hutc, civilOfMs_mul]
      · rw [hcast.1, hcast.2.1, hcast.2.2]
        rfl
    refine bind_eq_ok.mpr ⟨_, hvalid, ?_⟩
    rw [hutc, Int.mul_ediv_cancel _ (by decide)]
    rfl

theorem toList_epochDaysToLocalDate
    (h : 100 ≤ (ofDays day).year ∧ (ofDays day).year ≤ 9999) :
    (epochDaysToLocalDate day).toList = Nat.toDigits 10 (ofDays day).year.toNat ++
      '-' :: (padZeros 2 (Nat.toDigits 10 (ofDays day).month.toNat) ++
        '-' :: padZeros 2 (Nat.toDigits 10 (ofDays day).day.toNat)) := by
  have hmonth := month_ofDays day
  have hday := day_ofDays day
  have hfirst := le_year_ofDays_iff.mp h.1
  have hlast : ¬toDays ⟨10000, 1, 1⟩ ≤ day := fun hlater =>
    absurd (le_year_ofDays_iff.mpr hlater) (by omega)
  have hbounds : toDays ⟨100, 1, 1⟩ = -683003 ∧ toDays ⟨10000, 1, 1⟩ = 2932897 := by
    decide
  have htext : ∀ {n : ℤ}, 0 ≤ n → (toString n).toList = Nat.toDigits 10 n.toNat := by
    intro n hn
    obtain ⟨k, rfl⟩ := Int.eq_ofNat_of_zero_le hn
    exact Nat.toList_repr
  have htime : (day * msPerDay).natAbs ≤ maxTime := by
    show (day * 86400000).natAbs ≤ 8640000000000000
    omega
  rw [epochDaysToLocalDate]
  rw [if_pos htime, civilOfMs_mul, String.toList_ofList, localDateText, htext (by omega),
    htext (by omega), htext (by omega)]

theorem length_dateChars (h : 100 ≤ (ofDays day).year ∧ (ofDays day).year ≤ 9999) :
    (dateChars day).length = 10 := by
  have hmonth := month_ofDays day
  have hday := day_ofDays day
  rw [dateChars, List.length_append, List.length_cons, List.length_append, List.length_cons,
    length_padZeros_toDigits (by decide) (by omega),
    length_padZeros_toDigits (by decide) (by omega),
    length_padZeros_toDigits (by decide) (by omega)]

theorem epochDaysToLocalDate_eq (h : FourDigits day) :
    epochDaysToLocalDate day = String.ofList (dateChars day) := by
  have hfull : 4 ≤ (Nat.toDigits 10 (ofDays day).year.toNat).length := by
    by_contra hlt
    have hshort := (Nat.length_toDigits_le_iff (b := 10) (k := 3) (by decide) (by decide)).mp
      (Nat.le_of_lt_succ (Nat.lt_of_not_le hlt))
    have hge := h.1
    omega
  rw [← String.ofList_toList (s := epochDaysToLocalDate day),
    toList_epochDaysToLocalDate ⟨Int.le_trans (by decide) h.1, h.2⟩, dateChars,
    padZeros_of_le hfull]

theorem length_epochDaysToLocalDate
    (h : 100 ≤ (ofDays day).year ∧ (ofDays day).year < 1000) :
    (epochDaysToLocalDate day).toList.length < 10 := by
  have hmonth := month_ofDays day
  have hday := day_ofDays day
  have hyear := (Nat.length_toDigits_le_iff (n := (ofDays day).year.toNat) (b := 10) (k := 3)
    (by decide) (by decide)).mpr (by omega)
  rw [toList_epochDaysToLocalDate ⟨h.1, by omega⟩, List.length_append, List.length_cons,
    List.length_append, List.length_cons, length_padZeros_toDigits (by decide) (by omega),
    length_padZeros_toDigits (by decide) (by omega)]
  omega

theorem localDateToEpochDays_dateChars
    (h : 100 ≤ (ofDays day).year ∧ (ofDays day).year ≤ 9999) :
    localDateToEpochDays (String.ofList (dateChars day)) = .ok day :=
  localDateToEpochDays_eq_ok.mpr ⟨h, trim_dateChars day⟩

theorem FourDigits.accepted (h : FourDigits day) :
    localDateToEpochDays (epochDaysToLocalDate day) = .ok day := by
  rw [epochDaysToLocalDate_eq h]
  exact localDateToEpochDays_dateChars ⟨Int.le_trans (by decide) h.1, h.2⟩

/-- The first character of a day is a zero in the years before 1000 only. -/
theorem head?_dateChars (h : 100 ≤ (ofDays day).year ∧ (ofDays day).year ≤ 9999) :
    (dateChars day).head? ≠ some '0' ↔ 1000 ≤ (ofDays day).year := by
  have hlength : (padZeros 4 (Nat.toDigits 10 (ofDays day).year.toNat)).length = 4 :=
    length_padZeros_toDigits (by decide) (by omega)
  have hdigits : ∀ c ∈ padZeros 4 (Nat.toDigits 10 (ofDays day).year.toNat), c.isDigit :=
    fun c hc => isDigit_of_mem_padZeros hc
  have hvalue := digitsValue_padZeros (ofDays day).year.toNat 4
  rw [dateChars]
  cases hyear : padZeros 4 (Nat.toDigits 10 (ofDays day).year.toNat) with
  | nil =>
    rw [hyear] at hlength
    cases hlength
  | cons c cs =>
    rw [hyear] at hlength hdigits hvalue
    have hthree : cs.length = 3 := Nat.succ.inj hlength
    have hhead := head_ne_zero_iff (hdigits c List.mem_cons_self)
      (fun d hd => hdigits d (List.mem_cons_of_mem _ hd))
    rw [hthree] at hhead
    change Nat.ofDigitChars 10 (c :: cs) 0 = _ at hvalue
    rw [hvalue] at hhead
    show some c ≠ some '0' ↔ _
    rw [ne_eq, Option.some.injEq, ← ne_eq, hhead]
    omega

end Dates

/-! ## The three laws -/

section Laws

variable {dateStr : String} {day : ℤ}

theorem length_trim_le (s : String) : (trim s).length ≤ s.toList.length := by
  have hdrop : ∀ cs : List Char, (cs.dropWhile Finance.isJsSpace).length ≤ cs.length :=
    fun cs => (List.dropWhile_sublist _).length_le
  rw [trim, List.length_reverse]
  refine Nat.le_trans (hdrop _) ?_
  rw [List.length_reverse]
  exact hdrop _

theorem roundTrip_iff (h : localDateToEpochDays dateStr = .ok day) :
    epochDaysToLocalDate day = dateStr ↔ Written dateStr := by
  obtain ⟨hyear, htrim⟩ := localDateToEpochDays_eq_ok.mp h
  constructor
  · rintro rfl
    have hthousand : 1000 ≤ (ofDays day).year := by
      by_contra hlt
      have hshort := length_epochDaysToLocalDate ⟨hyear.1, Int.lt_of_not_ge hlt⟩
      have htrimmed := length_trim_le (epochDaysToLocalDate day)
      rw [htrim, length_dateChars hyear] at htrimmed
      omega
    rw [epochDaysToLocalDate_eq ⟨hthousand, hyear.2⟩]
    refine ⟨(trim_dateChars day).trans String.toList_ofList.symm, ?_⟩
    rw [String.toList_ofList]
    exact (head?_dateChars hyear).mpr hthousand
  · rintro ⟨hspace, hhead⟩
    rw [← hspace, htrim, head?_dateChars hyear] at hhead
    rw [epochDaysToLocalDate_eq ⟨hhead, hyear.2⟩, ← htrim, hspace, String.ofList_toList]

theorem addDays_add (h : localDateToEpochDays dateStr = .ok day) {m n : ℤ}
    (hm : FourDigits (day + m)) :
    (addDaysToLocalDate dateStr m >>= (addDaysToLocalDate · n)) =
      addDaysToLocalDate dateStr (m + n) := by
  have hadd : ∀ k, addDaysToLocalDate dateStr k = .ok (epochDaysToLocalDate (day + k)) := fun k =>
    bind_eq_ok.mpr ⟨day, h, rfl⟩
  rw [hadd, hadd, ← Int.add_assoc]
  exact bind_eq_ok.mpr ⟨_, rfl, bind_eq_ok.mpr ⟨day + m, hm.accepted, rfl⟩⟩

theorem resolveExecutionWeek_eq_some (h : localDateToEpochDays dateStr = .ok day)
    {durationWeeks target week : ℤ} {localDate : String} (hpos : 0 < durationWeeks)
    (htarget : localDateToEpochDays localDate = .ok target) :
    resolveExecutionWeek dateStr durationWeeks localDate = .ok (some week) ↔
      (1 ≤ week ∧ week ≤ durationWeeks) ∧
        day + 7 * (week - 1) ≤ target ∧ target < day + 7 * week := by
  have hresolve : resolveExecutionWeek dateStr durationWeeks localDate =
      .ok (if target - day < 0 then none
        else if durationWeeks * 7 ≤ target - day then none
        else if (target - day) / 7 + 1 < 1 ∨ durationWeeks < (target - day) / 7 + 1 then none
        else some ((target - day) / 7 + 1)) :=
    require_bind_eq_ok.mpr ⟨hpos, bind_eq_ok.mpr ⟨day, h, bind_eq_ok.mpr ⟨target, htarget, rfl⟩⟩⟩
  rw [hresolve, Except.ok.injEq]
  split_ifs
  · exact ⟨fun hnone => (nomatch hnone), fun hweek => by omega⟩
  · exact ⟨fun hnone => (nomatch hnone), fun hweek => by omega⟩
  · exact ⟨fun hnone => (nomatch hnone), fun hweek => by omega⟩
  · rw [Option.some.injEq]
    omega

theorem weeksLaw (h : localDateToEpochDays dateStr = .ok day) {durationWeeks : ℤ}
    (hpos : 0 < durationWeeks) (hend : FourDigits (day + 7 * durationWeeks)) :
    WeeksLaw dateStr day durationWeeks where
  assigned := by
    have hend' : calculateCycleEndDateExclusive dateStr durationWeeks =
        .ok (epochDaysToLocalDate (day + 7 * durationWeeks)) := by
      rw [Int.mul_comm]
      exact require_bind_eq_ok.mpr ⟨hpos, bind_eq_ok.mpr ⟨day, h, rfl⟩⟩
    refine ⟨_, _, hend', hend.accepted, fun localDate target htarget => ?_⟩
    constructor
    · rintro ⟨week, hweek⟩
      have hrange := (resolveExecutionWeek_eq_some h hpos htarget).mp hweek
      omega
    · intro hrange
      refine ⟨(target - day) / 7 + 1, (resolveExecutionWeek_eq_some h hpos htarget).mpr ?_⟩
      omega
  bounded localDate week hweek := by
    obtain ⟨-, hrest⟩ := require_bind_eq_ok.mp hweek
    obtain ⟨_, hrest⟩ := of_bind hrest
    obtain ⟨target, htarget, -⟩ := bind_eq_ok.mp hrest
    exact ((resolveExecutionWeek_eq_some h hpos htarget).mp hweek).1
  seven week hone hle := by
    obtain ⟨hyear, -⟩ := localDateToEpochDays_eq_ok.mp h
    ext target
    constructor
    · rintro ⟨localDate, htarget, hweek⟩
      exact ((resolveExecutionWeek_eq_some h hpos htarget).mp hweek).2
    · intro hrange
      have hbounds : day + 7 * (week - 1) ≤ target ∧ target < day + 7 * week := hrange
      -- Every day of the week lies between two accepted ones.
      have hfirst := le_year_ofDays_iff.mp hyear.1
      have hfrom : 100 ≤ (ofDays target).year := le_year_ofDays_iff.mpr (by omega)
      have hto : (ofDays target).year ≤ 9999 := by
        by_contra hlater
        have hnext := le_year_ofDays_iff.mp (Int.lt_of_not_ge hlater)
        have hend' := le_year_ofDays_iff.mpr
          (Int.le_trans hnext (show target ≤ day + 7 * durationWeeks by omega))
        have hfour := hend.2
        omega
      exact ⟨_, localDateToEpochDays_dateChars ⟨hfrom, hto⟩,
        (resolveExecutionWeek_eq_some h hpos (localDateToEpochDays_dateChars ⟨hfrom, hto⟩)).mpr
          ⟨⟨hone, hle⟩, hbounds⟩⟩

/-- The weeks and the sums are always right; the text has to be as the calendar writes it. -/
theorem calendarLaw_iff (h : localDateToEpochDays dateStr = .ok day) :
    CalendarLaw dateStr day ↔ Written dateStr :=
  ⟨fun hlaw => (roundTrip_iff h).mp hlaw.roundTrip, fun hwritten =>
    ⟨(roundTrip_iff h).mpr hwritten, fun _ _ hm _ => addDays_add h hm,
      fun _ hpos hend => weeksLaw h hpos hend⟩⟩

theorem calendarLaw_iff_monday :
    CalendarLaw "2026-01-05" 20458 ↔ Written "2026-01-05" :=
  calendarLaw_iff (by decide +kernel)

/-- The last day of the year 999 comes back as `999-12-31`. -/
theorem not_calendarLaw_year999 :
    ¬∀ dateStr day, localDateToEpochDays dateStr = .ok day → CalendarLaw dateStr day := by
  intro h
  have hback := (h "0999-12-31" (-354286) (by decide +kernel)).roundTrip
  have hlost : epochDaysToLocalDate (-354286) ≠ "0999-12-31" := by decide +kernel
  exact hlost hback

/-- The text that it comes back as is not accepted any more. -/
example : (addDaysToLocalDate "0999-12-31" 0 >>= (addDaysToLocalDate · 1)).toOption = none := by
  decide +kernel

end Laws

end JavisSaas.Company.Operations
