import Mathlib.Tactic.IntervalCases
import JavisSaas.Cosa.Schedule.Recurrence

/-!
# The next run around a change of the offset

`calculateNextRun` corrects a wall time once, by the offset at that time read as UTC, and goes from
date to date by 24 hours.

* `calculateNextRun_iff`: it returns the next instant at which the clock shows the time on an
  allowed day if and only if these dates and offsets come to that instant before another.
* `finds_of_steady`: so they do while the offset does not change.
* `not_isNext_skipped`: late in the evening before clocks are put forward it skips a day.
-/

namespace JavisSaas.Cosa.Schedule

open JavisSaas.Lib
open Civil (le_year_ofDays ofDays toDays_ofDays)

variable {tz : Zone} {kind : ScheduleKind} {weekdays : Option (List ℤ)} {h m now n : ℤ}

/-! ## The rule -/

/-- A rule that recurs, on weekdays from 1 to 7 if not daily. -/
def Recurs (weekdays : Option (List ℤ)) : ScheduleKind → Prop
  | .oneTime => False
  | .daily => True
  | .weekdays => ∃ days ∈ weekdays, days ≠ [] ∧ ∀ day ∈ days, 1 ≤ day ∧ day ≤ 7

/-- From 1, a Monday, to 7. -/
def dayOfWeek (day : ℤ) : ℤ := (day + 3) % 7 + 1

/-- The rule allows the day. -/
def Allows (weekdays : Option (List ℤ)) (day : ℤ) : ScheduleKind → Prop
  | .oneTime => False
  | .daily => True
  | .weekdays => ∃ days ∈ weekdays, dayOfWeek day ∈ days

/-- The requested time of a day. -/
def clockTime (h m : ℤ) : ℤ := h * 3600000 + m * 60000

theorem getTzDayOfWeek_eq (tz : Zone) (date : ℤ) :
    getTzDayOfWeek date tz = dayOfWeek (tz.day date) := by
  unfold getTzDayOfWeek shortWeekday dayOfWeek
  have hmod : 0 ≤ (tz.day date + 3) % 7 ∧ (tz.day date + 3) % 7 < 7 := by omega
  generalize (tz.day date + 3) % 7 = weekday at hmod
  obtain ⟨h0, h7⟩ := hmod
  interval_cases weekday <;> rfl

theorem takes_iff {target : ℤ} : Takes tz kind weekdays now target ↔
    now < target ∧ Allows weekdays (tz.day target) kind := by
  refine and_congr_right fun _ => ?_
  cases kind with
  | oneTime | daily => exact Iff.rfl
  | weekdays =>
    constructor
    · rintro ⟨days, hdays, -, hmem⟩
      exact ⟨days, hdays, getTzDayOfWeek_eq tz target ▸ hmem⟩
    · rintro ⟨days, hdays, hmem⟩
      exact ⟨days, hdays, List.length_pos_of_mem hmem, (getTzDayOfWeek_eq tz target).symm ▸ hmem⟩

theorem Recurs.exists_allowed (hrule : Recurs weekdays kind) (day : ℤ) :
    ∃ day', day ≤ day' ∧ day' < day + 7 ∧ Allows weekdays day' kind := by
  cases kind with
  | oneTime => exact hrule.elim
  | daily => exact ⟨day, Int.le_refl _, by omega, trivial⟩
  | weekdays =>
    obtain ⟨days, hdays, hne, hrange⟩ := hrule
    obtain ⟨weekday, hweekday⟩ := List.exists_mem_of_ne_nil days hne
    have hw := hrange weekday hweekday
    refine ⟨day + (weekday - 1 - (day + 3)) % 7, by omega, by omega, days, hdays, ?_⟩
    have heq : dayOfWeek (day + (weekday - 1 - (day + 3)) % 7) = weekday := by
      unfold dayOfWeek
      omega
    exact heq.symm ▸ hweekday

/-! ## The search -/

/-- Of the tests from `offsetDays` on, one comes to `n`, and none before to another instant. -/
def FindsFrom (tz : Zone) (kind : ScheduleKind) (h m : ℤ) (weekdays : Option (List ℤ)) (now n : ℤ)
    (tests offsetDays : ℕ) : Prop :=
  ∃ k, offsetDays ≤ k ∧ k < offsetDays + tests ∧ targetUtc tz h m now k = .ok (some n) ∧
    ∀ j, offsetDays ≤ j → j < k → ∃ target, targetUtc tz h m now j = .ok target ∧
      ∀ t ∈ target, Takes tz kind weekdays now t → t = n

theorem findsFrom_skip {tests offsetDays : ℕ} {target : Option ℤ}
    (htarget : targetUtc tz h m now offsetDays = .ok target)
    (hskip : ∀ t ∈ target, ¬ Takes tz kind weekdays now t) (hn : Takes tz kind weekdays now n) :
    FindsFrom tz kind h m weekdays now n (tests + 1) offsetDays ↔
      FindsFrom tz kind h m weekdays now n tests (offsetDays + 1) := by
  constructor
  · rintro ⟨k, hle, hlt, hk, hbefore⟩
    have hne : offsetDays ≠ k := by
      rintro rfl
      cases htarget.symm.trans hk
      exact hskip n rfl hn
    exact ⟨k, by omega, by omega, hk, fun j hj => hbefore j (by omega)⟩
  · rintro ⟨k, hle, hlt, hk, hbefore⟩
    refine ⟨k, by omega, by omega, hk, fun j hj hjk => ?_⟩
    by_cases heq : j = offsetDays
    · exact ⟨target, heq ▸ htarget, fun t ht htakes => absurd htakes (hskip t ht)⟩
    · exact hbefore j (by omega) hjk

/-- By induction on the rounds that are left. -/
theorem searchDays_eq_some_iff (hn : Takes tz kind weekdays now n) (tests offsetDays : ℕ) :
    searchDays tz kind h m weekdays now tests offsetDays = .ok (some n) ↔
      FindsFrom tz kind h m weekdays now n tests offsetDays := by
  induction tests generalizing offsetDays with
  | zero =>
    constructor
    · intro h
      nomatch Except.ok.inj h
    · rintro ⟨k, hle, hlt, -⟩
      omega
  | succ _ ih =>
    rw [searchDays]
    match htarget : targetUtc tz h m now offsetDays with
    | .error e =>
      refine ⟨(fun h => nomatch h), ?_⟩
      rintro ⟨k, hle, hlt, hk, hbefore⟩
      by_cases heq : offsetDays = k
      · nomatch (heq ▸ htarget).symm.trans hk
      · obtain ⟨target, hok, -⟩ := hbefore offsetDays (Nat.le_refl _) (by omega)
        nomatch htarget.symm.trans hok
    | .ok none =>
      exact (ih (offsetDays + 1)).trans (findsFrom_skip htarget (fun _ h => nomatch h) hn).symm
    | .ok (some target) =>
      dsimp only
      by_cases htakes : Takes tz kind weekdays now target
      · rw [if_pos htakes]
        constructor
        · intro heq
          cases heq
          exact ⟨offsetDays, Nat.le_refl _, by omega, htarget, fun j hj hlt => by omega⟩
        · rintro ⟨k, hle, hlt, hk, hbefore⟩
          by_cases heq : offsetDays = k
          · exact (heq ▸ htarget).symm.trans hk
          · obtain ⟨target', hok, hsame⟩ := hbefore offsetDays (Nat.le_refl _) (by omega)
            cases htarget.symm.trans hok
            rw [hsame target rfl htakes]
      · rw [if_neg htakes]
        refine (ih (offsetDays + 1)).trans (findsFrom_skip htarget (fun t ht => ?_) hn).symm
        cases ht
        exact htakes

/-! ## Dates and offsets -/

/-- From the parts that are shown, without the era, and with a year below 100 of the last century. -/
def readDay (day : ℤ) : ℤ :=
  let date := ofDays day
  let shown := if 0 < date.year then date.year else 1 - date.year
  Civil.toDays ⟨if shown ≤ 99 then 1900 + shown else shown, date.month, date.day⟩

/-- The date that the clock shows `k` times 24 hours after `now`. -/
def dateAt (tz : Zone) (now : ℤ) (k : ℕ) : ℤ := readDay (tz.day (now + k * 86400000))

/-- The requested time of a date, read as UTC. -/
def wallUtc (h m day : ℤ) : ℤ := day * msPerDay + clockTime h m

/-- The offset that the clock shows at an instant, in whole minutes. -/
def shownOffset (tz : Zone) (t : ℤ) : ℤ :=
  readDay (tz.day t) * msPerDay + (tz.timeOfDay t - tz.timeOfDay t % 60000) - t

/-- A time that a `Date` may have. -/
abbrev Valid (t : ℤ) : Prop := t.natAbs ≤ 8640000000000000

/-- The date `k` times 24 hours after `now`, and the requested time of it, are in the range. -/
def Readable (tz : Zone) (h m now : ℤ) (k : ℕ) : Prop :=
  Valid (now + k * 86400000) ∧ Valid (wallUtc h m (dateAt tz now k))
deriving Decidable

/-- And so are that time with the offset at it added, and with the offset taken off. -/
def InRange (tz : Zone) (h m now : ℤ) (k : ℕ) : Prop :=
  let wall := wallUtc h m (dateAt tz now k)
  Readable tz h m now k ∧ Valid (wall + shownOffset tz wall) ∧ Valid (wall - shownOffset tz wall)

theorem getUtcDate_ofDays (day : ℤ) :
    getUtcDateFromTzWallClock (if 0 < (ofDays day).year then (ofDays day).year
        else 1 - (ofDays day).year) ((ofDays day).month - 1) (ofDays day).day h m tz =
      let wall := wallUtc h m (readDay day)
      if Valid wall then
        .ok ((newDate (wall + shownOffset tz wall)).bind fun asUtc => newDate (wall - (asUtc - wall)))
      else .error .invalidTime := by
  have hread : ∀ day hour minute : ℤ, dateUtc (if 0 < (ofDays day).year then (ofDays day).year
      else 1 - (ofDays day).year) ((ofDays day).month - 1) (ofDays day).day hour minute =
        newDate (readDay day * msPerDay + hour * 3600000 + minute * 60000) := by
    intro day hour minute
    have hshown : 0 ≤ if 0 < (ofDays day).year then (ofDays day).year else 1 - (ofDays day).year := by
      split_ifs <;> omega
    rw [dateUtc, Int.sub_add_cancel, readDay]
    simp only [hshown, true_and]
  have hwall : readDay day * msPerDay + h * 3600000 + m * 60000 = wallUtc h m (readDay day) :=
    Int.add_assoc _ _ _
  rw [getUtcDateFromTzWallClock, hread, hwall]
  dsimp only
  have hwhole : wallUtc h m (readDay day) % 60000 = 0 := by
    unfold wallUtc clockTime msPerDay
    omega
  generalize wallUtc h m (readDay day) = wall at hwhole
  by_cases hvalid : Valid wall
  · rw [if_pos hvalid, newDate, if_pos hvalid]
    -- midnight is shown as 24 o'clock
    have hhour : ∀ hour : ℤ, 0 ≤ hour → hour < 24 →
        (if (if hour = 0 then 24 else hour) = 24 then 0 else if hour = 0 then 24 else hour) =
          hour := by
      intro hour h0 h24
      split_ifs <;> omega
    have hrange : 0 ≤ tz.timeOfDay wall ∧ tz.timeOfDay wall < 86400000 :=
      ⟨Int.emod_nonneg _ (by decide), Int.emod_lt_of_pos _ (by decide)⟩
    have hminutes : readDay (tz.day wall) * msPerDay + tz.timeOfDay wall / 3600000 * 3600000 +
        tz.timeOfDay wall % 3600000 / 60000 * 60000 = wall + shownOffset tz wall := by
      unfold shownOffset
      omega
    show Except.ok _ = _
    dsimp only
    rw [hhour _ (by omega) (by omega), hread, hminutes]
    rfl
  · rw [if_neg hvalid, newDate, if_neg hvalid]
    rfl

theorem targetUtc_eq (k : ℕ) : targetUtc tz h m now k =
    let wall := wallUtc h m (dateAt tz now k)
    if Readable tz h m now k then
      .ok ((newDate (wall + shownOffset tz wall)).bind fun asUtc => newDate (wall - (asUtc - wall)))
    else .error .invalidTime := by
  rw [targetUtc]
  by_cases hvalid : Valid (now + k * 86400000)
  · rw [newDate, if_pos hvalid]
    refine (getUtcDate_ofDays _).trans ?_
    simp only [Readable, hvalid, true_and, dateAt]
  · rw [newDate, if_neg hvalid]
    exact (if_neg fun hread => hvalid hread.1).symm

theorem newDate_eq_some {t t' : ℤ} : newDate t = some t' ↔ Valid t ∧ t = t' := by
  rw [newDate, Option.ite_none_right_eq_some, Option.some.injEq]

theorem targetUtc_eq_some_iff {k : ℕ} {t : ℤ} : targetUtc tz h m now k = .ok (some t) ↔
    InRange tz h m now k ∧
      t = wallUtc h m (dateAt tz now k) - shownOffset tz (wallUtc h m (dateAt tz now k)) := by
  rw [targetUtc_eq]
  unfold InRange
  dsimp only
  generalize wallUtc h m (dateAt tz now k) = wall
  have hsub : wall - (wall + shownOffset tz wall - wall) = wall - shownOffset tz wall := by omega
  split_ifs with hread
  · rw [Except.ok.injEq, Option.bind_eq_some_iff]
    constructor
    · rintro ⟨asUtc, hasUtc, ht⟩
      obtain ⟨hvalid, rfl⟩ := newDate_eq_some.mp hasUtc
      obtain ⟨hvalid', rfl⟩ := newDate_eq_some.mp ht
      rw [hsub] at hvalid' ⊢
      exact ⟨⟨hread, hvalid, hvalid'⟩, rfl⟩
    · rintro ⟨⟨-, hvalid, hvalid'⟩, rfl⟩
      exact ⟨_, newDate_eq_some.mpr ⟨hvalid, rfl⟩, newDate_eq_some.mpr ⟨hsub ▸ hvalid', hsub⟩⟩
  · exact ⟨fun h => (nomatch h), fun h => absurd h.1.1 hread⟩

theorem exists_targetUtc_iff {k : ℕ} : (∃ target, targetUtc tz h m now k = .ok target) ↔
    Readable tz h m now k := by
  rw [targetUtc_eq]
  dsimp only
  split_ifs with hread
  · exact iff_of_true ⟨_, rfl⟩ hread
  · exact iff_of_false (fun ⟨_, h⟩ => nomatch h) hread

/-- The date of `n` is met within 14 steps of 24 hours, with its offset at the wall time read as
UTC, up to whole days. On the dates before, that wall time less that offset is over, on a day that
is not allowed, or `n`. -/
def Finds (tz : Zone) (kind : ScheduleKind) (h m : ℤ) (weekdays : Option (List ℤ)) (now n : ℤ) :
    Prop :=
  ∃ k ≤ 14, InRange tz h m now k ∧
    (dateAt tz now k - tz.day n) * msPerDay =
      shownOffset tz (wallUtc h m (dateAt tz now k)) - tz.offset n ∧
    ∀ j < k, Readable tz h m now j ∧
      let t := wallUtc h m (dateAt tz now j) - shownOffset tz (wallUtc h m (dateAt tz now j))
      InRange tz h m now j → now < t → Allows weekdays (tz.day t) kind → t = n

theorem findsFrom_zero (hn : tz.timeOfDay n = clockTime h m) :
    FindsFrom tz kind h m weekdays now n 15 0 ↔ Finds tz kind h m weekdays now n := by
  have hwall : tz.wall n = tz.day n * msPerDay + clockTime h m := by
    rw [← hn, Zone.day, Zone.timeOfDay, Int.ediv_mul_add_emod]
  have hmeets : ∀ date : ℤ, n = wallUtc h m date - shownOffset tz (wallUtc h m date) ↔
      (date - tz.day n) * msPerDay = shownOffset tz (wallUtc h m date) - tz.offset n := by
    intro date
    rw [Zone.wall] at hwall
    generalize shownOffset tz (wallUtc h m date) = offset
    rw [wallUtc, Int.sub_mul]
    omega
  have hbefore : ∀ j, (∃ target, targetUtc tz h m now j = .ok target ∧
      ∀ t ∈ target, Takes tz kind weekdays now t → t = n) ↔ Readable tz h m now j ∧
        let t := wallUtc h m (dateAt tz now j) - shownOffset tz (wallUtc h m (dateAt tz now j))
        InRange tz h m now j → now < t → Allows weekdays (tz.day t) kind → t = n := by
    intro j
    constructor
    · rintro ⟨target, htarget, hall⟩
      refine ⟨exists_targetUtc_iff.mp ⟨target, htarget⟩, fun hrange hlt hallows => ?_⟩
      have hsome := targetUtc_eq_some_iff.mpr ⟨hrange, rfl⟩
      cases htarget.symm.trans hsome
      exact hall _ rfl (takes_iff.mpr ⟨hlt, hallows⟩)
    · rintro ⟨hread, hall⟩
      obtain ⟨target, htarget⟩ := exists_targetUtc_iff.mpr hread
      refine ⟨target, htarget, ?_⟩
      rintro t rfl htakes
      obtain ⟨hrange, rfl⟩ := targetUtc_eq_some_iff.mp htarget
      obtain ⟨hlt, hallows⟩ := takes_iff.mp htakes
      exact hall hrange hlt hallows
  unfold FindsFrom Finds
  simp only [Nat.zero_add, Nat.zero_le, true_and, forall_const, Nat.lt_succ_iff, hbefore,
    targetUtc_eq_some_iff, hmeets, and_assoc]

/-! ## While the offset does not change -/

theorem readDay_of_le {day : ℤ} (hday : 146097 - 719468 ≤ day) : readDay day = day := by
  have hyear := le_year_ofDays hday
  have hpos : 0 < (ofDays day).year := by omega
  have hlarge : ¬ (ofDays day).year ≤ 99 := by omega
  rw [readDay]
  simp only [if_pos hpos, if_neg hlarge]
  exact toDays_ofDays day

/-- The offset is one of minutes, for two days before `now` and ten after, in years that formats
show. -/
structure Steady (tz : Zone) (now c : ℤ) : Prop where
  offset : ∀ t, now - 2 * 86400000 ≤ t → t ≤ now + 10 * 86400000 → tz.offset t = c
  minutes : c % 60000 = 0
  small : -86400000 < c ∧ c < 86400000
  since : (146097 - 719468 + 4) * 86400000 ≤ now
  upTo : now ≤ 8640000000000000 - 12 * 86400000

theorem day_of_offset {t c : ℤ} (h : tz.offset t = c) : tz.day t = (t + c) / 86400000 := by
  rw [Zone.day, Zone.wall, h]
  rfl

theorem inRange_of_steady {c : ℤ} (hs : Steady tz now c)
    (htime : 0 ≤ clockTime h m ∧ clockTime h m < 86400000) {k : ℕ} (hk : k ≤ 8) :
    dateAt tz now k = tz.day now + k ∧
      shownOffset tz (wallUtc h m (tz.day now + k)) = c ∧ InRange tz h m now k := by
  obtain ⟨hoffset, hminutes, hsmall, hsince, hupTo⟩ := hs
  have hnow : tz.day now = (now + c) / 86400000 := day_of_offset (hoffset _ (by omega) (by omega))
  have hdate : dateAt tz now k = tz.day now + k := by
    have hday : tz.day (now + k * 86400000) = tz.day now + k := by
      rw [day_of_offset (hoffset _ (by omega) (by omega)), hnow]
      omega
    rw [dateAt, hday]
    exact readDay_of_le (by omega)
  unfold InRange Readable
  rw [hdate]
  -- the wall time read as UTC is less than two days away from the instant of the test
  generalize hbase : wallUtc h m (tz.day now + k) = base
  replace hbase : (tz.day now + k) * 86400000 + clockTime h m = base := hbase
  have hnear : now + k * 86400000 - 2 * 86400000 < base ∧
      base < now + k * 86400000 + 2 * 86400000 := by omega
  have hwall : tz.wall base = base + c := by
    rw [Zone.wall, hoffset _ (by omega) (by omega)]
  have hwhole : base % 60000 = 0 := by
    unfold clockTime at hbase
    omega
  have hshown : shownOffset tz base = c := by
    have hday : readDay (tz.day base) = tz.day base := by
      refine readDay_of_le ?_
      rw [day_of_offset (hoffset _ (by omega) (by omega))]
      omega
    rw [shownOffset, hday, Zone.timeOfDay, Zone.day, hwall]
    unfold msPerDay
    omega
  rw [hshown]
  exact ⟨rfl, rfl, ⟨by omega, by omega⟩, by omega, by omega⟩

theorem finds_of_steady {c : ℤ} (hs : Steady tz now c)
    (htime : 0 ≤ clockTime h m ∧ clockTime h m < 86400000) (hrule : Recurs weekdays kind)
    (hn : tz.IsNext (clockTime h m) (Allows weekdays · kind) now n) :
    Finds tz kind h m weekdays now n := by
  have hnow : tz.day now = (now + c) / 86400000 :=
    day_of_offset (hs.offset _ (by omega) (by omega))
  -- there is a run in the week that begins tomorrow
  obtain ⟨later, hle, hlt, hallows⟩ := hrule.exists_allowed (tz.day now + 1)
  have hlater : n ≤ later * 86400000 + clockTime h m - c := by
    refine hn.2 ⟨by omega, ?_⟩
    exact (Zone.shows_iff_of_offset htime (hs.offset _ (by omega) (by omega))).mpr
      ⟨later, hallows, rfl⟩
  have hafter : now < n := hn.1.1
  have hoffset : tz.offset n = c := hs.offset n (by omega) (by omega)
  obtain ⟨day, hday, heq⟩ := (Zone.shows_iff_of_offset htime hoffset).mp hn.1.2
  replace heq : n = day * 86400000 + clockTime h m - c := heq
  have hk : tz.day now ≤ day ∧ day ≤ tz.day now + 8 := by omega
  have hcast : tz.day now + ((day - tz.day now).toNat : ℤ) = day := by omega
  obtain ⟨hdate, hshown, hrange⟩ := inRange_of_steady hs htime (k := (day - tz.day now).toNat)
    (by omega)
  refine ⟨(day - tz.day now).toNat, by omega, hrange, ?_, fun j hj => ?_⟩
  · have hdayn : tz.day n = day := by
      rw [day_of_offset hoffset]
      omega
    rw [hdate, hshown, hoffset, hcast, hdayn]
    omega
  · obtain ⟨hdate, hshown, hrange⟩ := inRange_of_steady hs htime (k := j) (by omega)
    refine ⟨hrange.1, fun _ hlt hallows => ?_⟩
    rw [hdate, hshown] at hlt hallows ⊢
    have hwall : wallUtc h m (tz.day now + j) - c =
      (tz.day now + j) * 86400000 + clockTime h m - c := rfl
    rw [hwall] at hlt hallows ⊢
    -- it would be a run before the next one
    have hoffset' : tz.offset ((tz.day now + j) * 86400000 + clockTime h m - c) = c :=
      hs.offset _ (by omega) (by omega)
    have hshows : tz.Shows (clockTime h m) (Allows weekdays · kind)
        ((tz.day now + j) * 86400000 + clockTime h m - c) := by
      refine (Zone.shows_iff_of_offset htime hoffset').mpr ⟨tz.day now + j, ?_, rfl⟩
      have hsame : tz.day ((tz.day now + j) * 86400000 + clockTime h m - c) = tz.day now + j := by
        rw [day_of_offset hoffset']
        omega
      exact hsame ▸ hallows
    have hleast := hn.2 ⟨hlt, hshows⟩
    omega

/-! ## The next run -/

/-- The next instant at the requested time exists, and is returned exactly if the tests find it. -/
theorem calculateNextRun_iff {zones : String → Option Zone} {name : String}
    {hour minute : Option ℤ} (hzone : zones name = some tz)
    (hhour : 0 ≤ hour.getD 0 ∧ hour.getD 0 ≤ 23) (hminute : 0 ≤ minute.getD 0 ∧ minute.getD 0 ≤ 59)
    (hrule : Recurs weekdays kind) :
    ∃ n, tz.IsNext (clockTime (hour.getD 0) (minute.getD 0)) (Allows weekdays · kind) now n ∧
      (calculateNextRun zones kind name hour minute weekdays now = .ok (some n) ↔
        Finds tz kind (hour.getD 0) (minute.getD 0) weekdays now n) := by
  have htime : 0 ≤ clockTime (hour.getD 0) (minute.getD 0) ∧
      clockTime (hour.getD 0) (minute.getD 0) < msPerDay := by
    show _ ∧ _ < (86400000 : ℤ)
    unfold clockTime
    omega
  obtain ⟨n, hn⟩ := Zone.exists_isNext (z := tz) htime (fun day => by
    obtain ⟨day', hle, -, hallows⟩ := hrule.exists_allowed day
    exact ⟨day', hle, hallows⟩) now
  refine ⟨n, hn, ?_⟩
  have hkind : kind ≠ .oneTime := by
    rintro rfl
    exact hrule
  have hvalid : ¬ (hour.getD 0 < 0 ∨ hour.getD 0 > 23 ∨ minute.getD 0 < 0 ∨ minute.getD 0 > 59) := by
    omega
  rw [calculateNextRun, if_neg hkind, hzone]
  dsimp only
  rw [if_neg hvalid, searchDays_eq_some_iff (takes_iff.mpr ⟨hn.1.1, hn.1.2.2⟩), findsFrom_zero hn.1.2.1]

namespace NextRunSample

/-- America/New_York in 2026. -/
def newYork : Zone where
  initial := -5 * 3600000
  transitions := [(1772953200000, -4 * 3600000), (1793512800000, -5 * 3600000)]

def zones (tz : String) : Option Zone := if tz = "America/New_York" then some newYork else none

/-- Noon on the first of June. -/
def june : ℤ := 1780329600000

/-- Half past eleven in the evening of the seventh of March, before clocks are put forward. -/
def march : ℤ := 1772944200000

theorem steady_june : Steady newYork june (-4 * 3600000) where
  offset t hle hge := by
    have hspring : (1772953200000 : ℤ) ≤ t := by
      unfold june at hle
      omega
    have hautumn : ¬ (1793512800000 : ℤ) ≤ t := by
      unfold june at hge
      omega
    simp [Zone.offset, newYork, hspring, hautumn]
  minutes := by decide
  small := by decide
  since := by decide
  upTo := by decide

end NextRunSample

open NextRunSample in
theorem calculateNextRun_iff_june : ∃ n,
    newYork.IsNext (clockTime 12 0) (Allows (some [1, 7]) · .weekdays) june n ∧
      calculateNextRun zones .weekdays "America/New_York" (some 12) none (some [1, 7]) june =
        .ok (some n) := by
  have hrule : Recurs (some [1, 7]) .weekdays := ⟨[1, 7], rfl, by decide, by decide⟩
  have hhour : 0 ≤ (some 12 : Option ℤ).getD 0 ∧ (some 12 : Option ℤ).getD 0 ≤ 23 := by decide
  have hminute : 0 ≤ (none : Option ℤ).getD 0 ∧ (none : Option ℤ).getD 0 ≤ 59 := by decide
  have hmain : ∃ n, newYork.IsNext (clockTime 12 0) (Allows (some [1, 7]) · .weekdays) june n ∧
      (calculateNextRun zones .weekdays "America/New_York" (some 12) none (some [1, 7]) june =
        .ok (some n) ↔ Finds newYork .weekdays 12 0 (some [1, 7]) june n) :=
    calculateNextRun_iff rfl hhour hminute hrule
  obtain ⟨n, hn, hiff⟩ := hmain
  exact ⟨n, hn, hiff.mpr (finds_of_steady steady_june (by decide) hrule hn)⟩

open NextRunSample in
/-- A daily run at noon: 24 hours after half past eleven it is the day after tomorrow. -/
theorem not_isNext_skipped : ¬ ∀ (zones : String → Option Zone) (kind : ScheduleKind) (name : String)
    (tz : Zone) (hour minute : Option ℤ) (weekdays : Option (List ℤ)) (now : ℤ),
    zones name = some tz → 0 ≤ hour.getD 0 ∧ hour.getD 0 ≤ 23 →
    0 ≤ minute.getD 0 ∧ minute.getD 0 ≤ 59 → Recurs weekdays kind →
      ∃ n, tz.IsNext (clockTime (hour.getD 0) (minute.getD 0)) (Allows weekdays · kind) now n ∧
        calculateNextRun zones kind name hour minute weekdays now = .ok (some n) := by
  intro h
  obtain ⟨n, hn, hnext⟩ := h zones .daily "America/New_York" newYork (some 12) (some 0) none march rfl
    (by decide) (by decide) trivial
  have hskipped : calculateNextRun zones .daily "America/New_York" (some 12) (some 0) none march =
      .ok (some 1773072000000) := by decide +kernel
  cases Except.ok.inj (hnext.symm.trans hskipped)
  have hnoon : newYork.Shows (clockTime 12 0) (Allows none · .daily) 1772985600000 :=
    ⟨by decide, trivial⟩
  exact absurd (hn.2 ⟨by decide, hnoon⟩) (by decide)

end JavisSaas.Cosa.Schedule
