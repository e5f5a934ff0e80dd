import Mathlib.Tactic.Common
import Mathlib.Data.Int.LeastGreatest

/-!
# Dates and local time

Instants are milliseconds since 1970, of either sign. A zone shifts them by an offset that
changes at finitely many instants; days are numbered from 1970 on.

* `Civil.toDays_ofDays`: a date in the proleptic Gregorian calendar gives its day back.
* `Civil.le_year_ofDays_iff`: a year is reached on its first of January.
* `Zone.exists_isNext`: if there is always an allowed day later, there is a next instant at which
  the clock shows a time on an allowed day.
* `Zone.shows_iff_of_offset`: which instants these are where the offset is known.
-/

namespace JavisSaas.Lib

/-! ## The calendar -/

structure Civil where
  year : ℤ
  /-- From 1 to 12. -/
  month : ℤ
  day : ℤ
  deriving DecidableEq

namespace Civil

/-- Years begin in March. An era has 146097 days; its last day and that of an olympiad is a leap
day. -/
def ofDays (days : ℤ) : Civil :=
  let ofEra := (days + 719468) % 146097
  let century := min (ofEra / 36524) 3
  let ofCentury := ofEra - century * 36524
  let olympiad := ofCentury / 1461
  let ofOlympiad := ofCentury % 1461
  let year := min (ofOlympiad / 365) 3
  let ofYear := ofOlympiad - year * 365
  -- the months from March on have 153 days in every five
  let month := (5 * ofYear + 2) / 153
  let marchYear := (days + 719468) / 146097 * 400 + century * 100 + olympiad * 4 + year
  { year := if month < 10 then marchYear else marchYear + 1
    month := if month < 10 then month + 3 else month - 9
    day := ofYear - (153 * month + 2) / 5 + 1 }

def toDays (c : Civil) : ℤ :=
  let marchYear := if c.month ≤ 2 then c.year - 1 else c.year
  let month := if c.month ≤ 2 then c.month + 9 else c.month - 3
  let ofEra := marchYear % 400
  marchYear / 400 * 146097 + (ofEra * 365 + ofEra / 4 - ofEra / 100) + (153 * month + 2) / 5 +
    c.day - 1 - 719468

/-- The year and the day that an era's day falls on. -/
theorem ofEra_eq {ofEra : ℤ} (h0 : 0 ≤ ofEra) (h1 : ofEra < 146097) :
    ∃ century olympiad year ofYear : ℤ,
      min (ofEra / 36524) 3 = century ∧ (ofEra - century * 36524) / 1461 = olympiad ∧
      min ((ofEra - century * 36524) % 1461 / 365) 3 = year ∧
      (ofEra - century * 36524) % 1461 - year * 365 = ofYear ∧
      (0 ≤ century ∧ century ≤ 3) ∧ (0 ≤ olympiad ∧ olympiad ≤ 24) ∧ (0 ≤ year ∧ year ≤ 3) ∧
      (0 ≤ ofYear ∧ ofYear ≤ 365) ∧
      ofEra = century * 36524 + olympiad * 1461 + year * 365 + ofYear := by
  refine ⟨_, _, _, _, rfl, rfl, rfl, rfl, ?_⟩
  have hcentury : 0 ≤ min (ofEra / 36524) 3 ∧ min (ofEra / 36524) 3 ≤ 3 ∧
      0 ≤ ofEra - min (ofEra / 36524) 3 * 36524 ∧
      ofEra - min (ofEra / 36524) 3 * 36524 ≤ 36524 := by omega
  generalize min (ofEra / 36524) 3 = century at hcentury
  obtain ⟨hc0, hc3, hr0, hr⟩ := hcentury
  generalize hrest : ofEra - century * 36524 = ofCentury at hr0 hr
  omega

theorem toDays_ofDays (days : ℤ) : (ofDays days).toDays = days := by
  obtain ⟨century, olympiad, year, ofYear, hcentury, holympiad, hyear, hofYear, hc, ho, hy, hd,
    heq⟩ :=
    ofEra_eq (Int.emod_nonneg (days + 719468) (by decide)) (Int.emod_lt_of_pos _ (by decide))
  have hdays := Int.mul_ediv_add_emod (days + 719468) 146097
  rw [ofDays]
  simp only [hcentury, holympiad, hyear, hofYear]
  generalize (days + 719468) / 146097 = era at *
  have hmonth : 0 ≤ (5 * ofYear + 2) / 153 ∧ (5 * ofYear + 2) / 153 ≤ 11 := by omega
  generalize (5 * ofYear + 2) / 153 = month at hmonth
  have hera : (era * 400 + century * 100 + olympiad * 4 + year) / 400 = era ∧
    (era * 400 + century * 100 + olympiad * 4 + year) % 400 =
      century * 100 + olympiad * 4 + year := by omega
  have hleap : (century * 100 + olympiad * 4 + year) / 4 = century * 25 + olympiad ∧
    (century * 100 + olympiad * 4 + year) / 100 = century := by omega
  rw [toDays]
  by_cases hlt : month < 10
  · have hnot : ¬ month + 3 ≤ 2 := by omega
    simp only [if_pos hlt, if_neg hnot, hera, hleap]
    omega
  · have hle : month - 9 ≤ 2 := by omega
    have hyear' : ∀ y : ℤ, y + 1 - 1 = y := fun y => by omega
    simp only [if_neg hlt, if_pos hle, hyear', hera, hleap]
    omega

/-- The calendar from the first of March of the year 400 on. -/
theorem le_year_ofDays {days : ℤ} (h : 146097 - 719468 ≤ days) : 400 ≤ (ofDays days).year := by
  obtain ⟨century, olympiad, year, ofYear, hcentury, holympiad, hyear, hofYear, hc, ho, hy, hd,
    -⟩ :=
    ofEra_eq (Int.emod_nonneg (days + 719468) (by decide)) (Int.emod_lt_of_pos _ (by decide))
  have hera : 1 ≤ (days + 719468) / 146097 := by omega
  rw [ofDays]
  simp only [hcentury, holympiad, hyear, hofYear]
  split_ifs <;> omega

theorem month_ofDays (days : ℤ) : 1 ≤ (ofDays days).month ∧ (ofDays days).month ≤ 12 := by
  obtain ⟨century, olympiad, year, ofYear, hcentury, holympiad, hyear, hofYear, hc, ho, hy, hd,
    -⟩ :=
    ofEra_eq (Int.emod_nonneg (days + 719468) (by decide)) (Int.emod_lt_of_pos _ (by decide))
  rw [ofDays]
  simp only [hcentury, hyear, hofYear]
  split_ifs <;> omega

theorem day_ofDays (days : ℤ) : 1 ≤ (ofDays days).day ∧ (ofDays days).day ≤ 31 := by
  obtain ⟨century, olympiad, year, ofYear, hcentury, holympiad, hyear, hofYear, hc, ho, hy, hd,
    -⟩ :=
    ofEra_eq (Int.emod_nonneg (days + 719468) (by decide)) (Int.emod_lt_of_pos _ (by decide))
  rw [ofDays]
  simp only [hcentury, hyear, hofYear]
  omega

/-- The days before a year that begins in March, less those before the year 0. -/
def yearStart (year : ℤ) : ℤ := 365 * year + year / 4 - year / 100 + year / 400

theorem yearStart_succ (year : ℤ) : yearStart year + 365 ≤ yearStart (year + 1) := by
  have hcentury : (year + 1) / 100 ≤ year / 100 + 1 := by omega
  have hmono : year / 4 ≤ (year + 1) / 4 ∧ year / 400 ≤ (year + 1) / 400 := by omega
  unfold yearStart
  by_cases hnew : (year + 1) / 100 = year / 100
  · omega
  · -- the first year of a century is the first of an olympiad
    have holympiad : (year + 1) / 4 = year / 4 + 1 := by omega
    omega

theorem yearStart_lt {a b : ℤ} (h : a < b) : yearStart a + 365 ≤ yearStart b := by
  induction b, Int.add_one_le_of_lt h using Int.leInduction with
  | base => exact yearStart_succ a
  | succ b _ ih =>
    have hb := ih (by omega)
    have hsucc := yearStart_succ b
    omega

theorem toDays_january (year : ℤ) : toDays ⟨year, 1, 1⟩ = yearStart (year - 1) + 306 - 719468 := by
  have h4 : (year - 1) % 400 / 4 = (year - 1) / 4 - 100 * ((year - 1) / 400) := by omega
  have h100 : (year - 1) % 400 / 100 = (year - 1) / 100 - 4 * ((year - 1) / 400) := by omega
  have hmod := Int.emod_def (year - 1) 400
  have hle : (1 : ℤ) ≤ 2 := by decide
  rw [toDays, yearStart]
  simp only [if_pos hle]
  omega

/-- The last two months of a year that begins in March are in the next one. -/
theorem exists_marchYear (days : ℤ) : ∃ marchYear ofYear, (0 ≤ ofYear ∧ ofYear ≤ 365) ∧
    days + 719468 = yearStart marchYear + ofYear ∧
    (ofDays days).year = if ofYear < 306 then marchYear else marchYear + 1 := by
  obtain ⟨century, olympiad, year, ofYear, hcentury, holympiad, hyear, hofYear, hc, ho, hy, hd,
    heq⟩ :=
    ofEra_eq (Int.emod_nonneg (days + 719468) (by decide)) (Int.emod_lt_of_pos _ (by decide))
  have hdays := Int.mul_ediv_add_emod (days + 719468) 146097
  refine ⟨(days + 719468) / 146097 * 400 + century * 100 + olympiad * 4 + year, ofYear, hd, ?_, ?_⟩
  · generalize (days + 719468) / 146097 = era at *
    have h4 : (era * 400 + century * 100 + olympiad * 4 + year) / 4 =
        era * 100 + century * 25 + olympiad := by omega
    have h100 : (era * 400 + century * 100 + olympiad * 4 + year) / 100 = era * 4 + century := by
      omega
    have h400 : (era * 400 + century * 100 + olympiad * 4 + year) / 400 = era := by omega
    rw [yearStart, h4, h100, h400]
    omega
  · have hmonth : (5 * ofYear + 2) / 153 < 10 ↔ ofYear < 306 := by omega
    rw [ofDays]
    simp only [hcentury, holympiad, hyear, hofYear, hmonth]

/-- A year has begun on its first of January. -/
theorem le_year_ofDays_iff {year days : ℤ} :
    year ≤ (ofDays days).year ↔ toDays ⟨year, 1, 1⟩ ≤ days := by
  obtain ⟨marchYear, ofYear, hofYear, hdays, heq⟩ := exists_marchYear days
  rw [toDays_january, heq]
  have hlater : marchYear < year - 1 → yearStart marchYear + 365 ≤ yearStart (year - 1) :=
    yearStart_lt
  have hearlier : year - 1 < marchYear → yearStart (year - 1) + 365 ≤ yearStart marchYear :=
    yearStart_lt
  have hsame : year - 1 = marchYear → yearStart (year - 1) = yearStart marchYear := congrArg _
  split_ifs <;> omega

end Civil

/-! ## Zones -/

def msPerDay : ℤ := 86400000

/-- The transitions are in the order of time: from its instant on each has its offset. -/
structure Zone where
  initial : ℤ
  transitions : List (ℤ × ℤ) := []

namespace Zone

variable (z : Zone) {time now t c : ℤ} {allowed : ℤ → Prop}

def offset (t : ℤ) : ℤ :=
  z.transitions.foldl (fun offset transition => if transition.1 ≤ t then transition.2 else offset)
    z.initial

/-- What a clock shows, as the milliseconds since it showed 1970. -/
def wall (t : ℤ) : ℤ := t + z.offset t

def day (t : ℤ) : ℤ := z.wall t / msPerDay

def timeOfDay (t : ℤ) : ℤ := z.wall t % msPerDay

/-- The clock shows the time, on an allowed day. -/
def Shows (time : ℤ) (allowed : ℤ → Prop) (t : ℤ) : Prop :=
  z.timeOfDay t = time ∧ allowed (z.day t)

/-- The first instant after `now` at which the clock shows the time on an allowed day. -/
def IsNext (time : ℤ) (allowed : ℤ → Prop) (now n : ℤ) : Prop :=
  IsLeast {t | now < t ∧ z.Shows time allowed t} n

variable {z}

theorem shows_iff_of_offset (htime : 0 ≤ time ∧ time < msPerDay) (hc : z.offset t = c) :
    z.Shows time allowed t ↔ ∃ day, allowed day ∧ t = day * msPerDay + time - c := by
  unfold Shows Zone.day timeOfDay wall
  rw [hc]
  constructor
  · rintro ⟨hshows, hallowed⟩
    refine ⟨_, hallowed, ?_⟩
    have hdiv := Int.mul_ediv_add_emod (t + c) msPerDay
    rw [hshows, Int.mul_comm] at hdiv
    omega
  · rintro ⟨day, hallowed, rfl⟩
    have hwall : day * msPerDay + time - c + c = time + day * msPerDay := by omega
    have hne : msPerDay ≠ 0 := by decide
    rw [hwall, Int.add_mul_emod_self_right, Int.add_mul_ediv_right _ _ hne,
      Int.ediv_eq_zero_of_lt htime.1 htime.2, Int.zero_add]
    exact ⟨Int.emod_eq_of_lt htime.1 htime.2, hallowed⟩

variable (z) in
/-- The offset does not change after the last transition. -/
theorem exists_offset_eq : ∃ last c, ∀ t, last ≤ t → z.offset t = c := by
  obtain ⟨initial, transitions⟩ := z
  show ∃ last c, ∀ t, last ≤ t → transitions.foldl _ initial = c
  induction transitions generalizing initial with
  | nil => exact ⟨0, initial, fun _ _ => rfl⟩
  | cons transition _ ih =>
    obtain ⟨last, c, h⟩ := ih transition.2
    refine ⟨max last transition.1, c, fun t ht => ?_⟩
    rw [List.foldl_cons, if_pos (le_of_max_le_right ht)]
    exact h t (le_of_max_le_left ht)

theorem exists_isNext (htime : 0 ≤ time ∧ time < msPerDay)
    (hallowed : ∀ day, ∃ day', day ≤ day' ∧ allowed day') (now : ℤ) :
    ∃ n, z.IsNext time allowed now n := by
  obtain ⟨last, c, hc⟩ := z.exists_offset_eq
  -- a day whose beginning is after `now` and after the last transition
  obtain ⟨day, hday, hallow⟩ := hallowed (max (now + 1) last + c).natAbs
  have hlarge : max (now + 1) last ≤ day * msPerDay + time - c := by
    have hpos : (0 : ℤ) ≤ day := Int.le_trans (Int.natCast_nonneg _) hday
    have hmul : day ≤ day * msPerDay := by
      show day ≤ day * 86400000
      omega
    omega
  have hshows : z.Shows time allowed (day * msPerDay + time - c) :=
    (shows_iff_of_offset htime (hc _ (by omega))).mpr ⟨day, hallow, rfl⟩
  obtain ⟨n, hn, hleast⟩ := Int.exists_least_of_bdd
    (P := fun t => now < t ∧ z.Shows time allowed t) ⟨now, fun t ht => Int.le_of_lt ht.1⟩
    ⟨_, by omega, hshows⟩
  exact ⟨n, hn, fun t ht => hleast t ht⟩

end Zone

end JavisSaas.Lib
