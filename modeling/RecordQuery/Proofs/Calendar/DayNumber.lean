import Mathlib.Tactic.IntervalCases
import RecordQuery.Proofs.Literals.Times

/-!
# Days and nanoseconds by number

The days of the calendar follow each other through months and years of different lengths, so each
of them has a number, and each point in time is so many nanoseconds away from the first. Dates are
the same if their numbers are. Instants are the same if besides they are both in a leap second or
both not, since a leap second has no numbers of its own.

Results:
* `Date.exists_next?`, `Date.exists_previous?`: the day after a day has the next number.
* `Date.eq_of_dayNumber`, `Instant.eq_of_time`: a date is told by its number, and so is an instant.
* `Instant.exists_make?`, `Instant.exists_minusMinutes?`: the time of an instant is the sum of its
  parts, and the time of an earlier one the difference.
-/

namespace RecordQuery

/-! ## Lengths of months and years -/

/-- The number of days from the start of year 1 to the start of a year. -/
def daysBeforeYear (year : Int) : Int :=
  365 * (year - 1) + (year - 1) / 4 - (year - 1) / 100 + (year - 1) / 400

/-- The number of days in the months of a year before a month. -/
def daysBeforeMonth (year : Int) : Nat → Nat
  | 0 => 0
  | month + 1 => daysBeforeMonth year month + daysInMonth year month

/-- The number of a day, where the first day of year 1 has the number 1. -/
def dayNumber (year : Int) (month day : Nat) : Int :=
  daysBeforeYear year + daysBeforeMonth year month + day

example : dayNumber 1970 1 1 = 719163 := by decide

theorem isLeapYear_iff {year : Int} :
    isLeapYear year = true ↔ year % 4 = 0 ∧ (year % 100 ≠ 0 ∨ year % 400 = 0) := by
  simp [isLeapYear]

theorem daysBeforeMonth_thirteen (year : Int) :
    daysBeforeMonth year 13 = if isLeapYear year then 366 else 365 := by
  simp only [daysBeforeMonth, daysInMonth]
  split <;> rfl

/-- A year has as many days as its months. -/
theorem daysBeforeYear_succ (year : Int) :
    daysBeforeYear (year + 1) = daysBeforeYear year + daysBeforeMonth year 13 := by
  rw [daysBeforeMonth_thirteen]
  unfold daysBeforeYear
  by_cases h : isLeapYear year = true
  · rw [if_pos h]
    rw [isLeapYear_iff] at h
    omega
  · rw [if_neg h]
    rw [isLeapYear_iff] at h
    omega

theorem daysBeforeMonth_le {year : Int} {m n : Nat} (h : m ≤ n) :
    daysBeforeMonth year m ≤ daysBeforeMonth year n := by
  induction h with
  | refl => exact Nat.le_refl _
  | step _ ih => exact Nat.le_trans ih (Nat.le_add_right _ _)

theorem daysBeforeYear_le {m n : Int} (h : m ≤ n) : daysBeforeYear m ≤ daysBeforeYear n := by
  unfold daysBeforeYear
  omega

theorem daysInMonth_pos_iff {year : Int} {month : Nat} :
    1 ≤ daysInMonth year month ↔ 1 ≤ month ∧ month ≤ 12 := by
  unfold daysInMonth
  constructor
  · intro h
    by_contra hmonth
    split at h <;> omega
  · rintro ⟨hpos, hle⟩
    generalize isLeapYear year = leap
    interval_cases month <;> cases leap <;> decide

/-! ## One day after the other -/

theorem dayNumber_succ (year : Int) (month day : Nat) :
    dayNumber year month (day + 1) = dayNumber year month day + 1 := by
  unfold dayNumber
  omega

/-- The first day of a month follows the last one of the month before. -/
theorem dayNumber_month_succ (year : Int) (month : Nat) :
    dayNumber year (month + 1) 1 = dayNumber year month (daysInMonth year month) + 1 := by
  unfold dayNumber
  rw [daysBeforeMonth]
  omega

/-- The first day of a year follows the last one of the year before. -/
theorem dayNumber_year_succ (year : Int) :
    dayNumber (year + 1) 1 1 = dayNumber year 12 31 + 1 := by
  have hfirst : daysBeforeMonth (year + 1) 1 = 0 := rfl
  have hlast : daysBeforeMonth year 13 = daysBeforeMonth year 12 + 31 := rfl
  unfold dayNumber
  rw [daysBeforeYear_succ, hfirst, hlast]
  omega

/-! ## Dates -/

namespace Date

variable {a b d : Date} {year : Int} {month day : Nat}

/-- The number of a date. -/
def dayNumber (d : Date) : Int := RecordQuery.dayNumber d.year d.month d.day

theorem month_pos (d : Date) : 1 ≤ d.month :=
  (daysInMonth_pos_iff.mp (Nat.le_trans d.day_pos d.day_le)).1

/-- Up to a date there are no more days than up to the end of its month. -/
theorem day_le_daysBeforeMonth (d : Date) :
    daysBeforeMonth d.year d.month + d.day ≤ daysBeforeMonth d.year (d.month + 1) :=
  Nat.add_le_add_left d.day_le _

theorem daysBeforeYear_lt_dayNumber (d : Date) : daysBeforeYear d.year < d.dayNumber := by
  have hpos := d.day_pos
  unfold dayNumber RecordQuery.dayNumber
  omega

theorem dayNumber_le (d : Date) : d.dayNumber ≤ daysBeforeYear (d.year + 1) := by
  have hday := d.day_le_daysBeforeMonth
  have hmonth := @daysBeforeMonth_le d.year (d.month + 1) 13 (Nat.succ_le_succ d.month_le)
  rw [daysBeforeYear_succ]
  unfold dayNumber RecordQuery.dayNumber
  omega

theorem dayNumber_lt_of_year_lt (h : a.year < b.year) : a.dayNumber < b.dayNumber := by
  have hyears : daysBeforeYear (a.year + 1) ≤ daysBeforeYear b.year := daysBeforeYear_le h
  exact Int.lt_of_le_of_lt (Int.le_trans a.dayNumber_le hyears) b.daysBeforeYear_lt_dayNumber

theorem dayNumber_lt_of_month_lt (hyear : a.year = b.year) (h : a.month < b.month) :
    a.dayNumber < b.dayNumber := by
  have hday := a.day_le_daysBeforeMonth
  have hmonths := @daysBeforeMonth_le a.year (a.month + 1) b.month h
  have hpos := b.day_pos
  unfold dayNumber RecordQuery.dayNumber
  rw [← hyear]
  omega

/-- A date is told by its number. -/
theorem eq_of_dayNumber (h : a.dayNumber = b.dayNumber) : a = b := by
  have hyear : a.year = b.year := by
    rcases Int.lt_trichotomy a.year b.year with hlt | heq | hgt
    · exact absurd h (Int.ne_of_lt (dayNumber_lt_of_year_lt hlt))
    · exact heq
    · exact absurd h.symm (Int.ne_of_lt (dayNumber_lt_of_year_lt hgt))
  have hmonth : a.month = b.month := by
    rcases Nat.lt_trichotomy a.month b.month with hlt | heq | hgt
    · exact absurd h (Int.ne_of_lt (dayNumber_lt_of_month_lt hyear hlt))
    · exact heq
    · exact absurd h.symm (Int.ne_of_lt (dayNumber_lt_of_month_lt hyear.symm hgt))
  have hday : a.day = b.day := by
    unfold dayNumber RecordQuery.dayNumber at h
    rw [hyear, hmonth] at h
    omega
  cases a
  cases b
  cases hyear
  cases hmonth
  cases hday
  rfl

theorem make?_eq_some_iff : make? year month day = some d ↔
    (-262143 ≤ year ∧ year ≤ 262142) ∧ (1 ≤ day ∧ day ≤ daysInMonth year month) ∧
      d.year = year ∧ d.month = month ∧ d.day = day := by
  unfold make?
  constructor
  · intro h
    split at h
    · next hdate =>
      cases h
      exact ⟨hdate.1, hdate.2, rfl, rfl, rfl⟩
    · cases h
  · rintro ⟨hyear, hday, rfl, rfl, rfl⟩
    exact dif_pos ⟨hyear, hday⟩

theorem exists_make? (year : Int) (month day : Nat) (hyear : -262143 ≤ year ∧ year ≤ 262142)
    (hday : 1 ≤ day ∧ day ≤ daysInMonth year month) :
    ∃ d, make? year month day = some d ∧ d.dayNumber = RecordQuery.dayNumber year month day :=
  ⟨_, dif_pos ⟨hyear, hday⟩, rfl⟩

theorem make?_eq_none (h : ¬(1 ≤ day ∧ day ≤ daysInMonth year month)) :
    make? year month day = none :=
  dif_neg fun hdate => h hdate.2

theorem exists_next? (d : Date) (h : d.year < 262142) :
    ∃ e, d.next? = some e ∧ e.dayNumber = d.dayNumber + 1 := by
  have hge := d.year_ge
  unfold next?
  by_cases hday : d.day < daysInMonth d.year d.month
  · obtain ⟨e, he, hnumber⟩ := exists_make? d.year d.month (d.day + 1)
      ⟨d.year_ge, d.year_le⟩ ⟨Nat.succ_pos _, hday⟩
    exact ⟨e, by rw [he]; rfl, hnumber.trans (dayNumber_succ _ _ _)⟩
  · have hlast : d.day = daysInMonth d.year d.month := Nat.le_antisymm d.day_le (Nat.not_lt.mp hday)
    rw [make?_eq_none fun h => hday h.2]
    by_cases hmonth : d.month < 12
    · obtain ⟨e, he, hnumber⟩ := exists_make? d.year (d.month + 1) 1
        ⟨d.year_ge, d.year_le⟩ ⟨Nat.le_refl 1, daysInMonth_pos_iff.mpr ⟨Nat.succ_pos _, hmonth⟩⟩
      refine ⟨e, by rw [he]; rfl, ?_⟩
      rw [hnumber, dayNumber_month_succ, ← hlast]
      rfl
    · have hdecember : d.month = 12 := Nat.le_antisymm d.month_le (Nat.not_lt.mp hmonth)
      have hnone : make? d.year (d.month + 1) 1 = none :=
        make?_eq_none fun h => hmonth (Nat.lt_of_succ_le (daysInMonth_pos_iff.mp h.2).2)
      obtain ⟨e, he, hnumber⟩ := exists_make? (d.year + 1) 1 1
        ⟨by omega, by omega⟩ ⟨Nat.le_refl 1, daysInMonth_pos_iff.mpr (by decide)⟩
      refine ⟨e, by rw [hnone, he]; rfl, ?_⟩
      rw [hnumber, dayNumber_year_succ, dayNumber, hlast, hdecember]
      rfl

theorem exists_previous? (d : Date) (h : -262143 < d.year) :
    ∃ e, d.previous? = some e ∧ e.dayNumber = d.dayNumber - 1 := by
  have hle := d.year_le
  have hpos := d.day_pos
  unfold previous?
  by_cases hday : d.day = 1
  · rw [if_pos hday]
    obtain ⟨month, hmonth⟩ := Nat.exists_eq_add_of_le' d.month_pos
    rw [hmonth, Nat.add_sub_cancel]
    by_cases hjanuary : month = 0
    · have hnone : make? d.year month (daysInMonth d.year month) = none := by
        rw [hjanuary]
        exact make?_eq_none fun h => absurd (daysInMonth_pos_iff.mp h.1).1 (by decide)
      obtain ⟨e, he, hnumber⟩ := exists_make? (d.year - 1) 12 31
        ⟨by omega, by omega⟩ ⟨by decide, Nat.le_refl 31⟩
      have hyear := dayNumber_year_succ (d.year - 1)
      rw [Int.sub_add_cancel] at hyear
      refine ⟨e, by rw [hnone, he]; rfl, ?_⟩
      rw [hnumber, dayNumber, hmonth, hjanuary, hday, hyear, Int.add_sub_cancel]
    · have hmonths := d.month_le
      have hlength : 1 ≤ daysInMonth d.year month :=
        daysInMonth_pos_iff.mpr ⟨Nat.pos_of_ne_zero hjanuary, by omega⟩
      obtain ⟨e, he, hnumber⟩ := exists_make? d.year month (daysInMonth d.year month)
        ⟨d.year_ge, d.year_le⟩ ⟨hlength, Nat.le_refl _⟩
      refine ⟨e, by rw [he]; rfl, ?_⟩
      rw [hnumber, dayNumber, hmonth, hday, dayNumber_month_succ, Int.add_sub_cancel]
  · rw [if_neg hday]
    obtain ⟨day, hsucc⟩ := Nat.exists_eq_add_of_le' hpos
    have hdays := d.day_le
    obtain ⟨e, he, hnumber⟩ := exists_make? d.year d.month (d.day - 1)
      ⟨d.year_ge, d.year_le⟩ ⟨by omega, by omega⟩
    refine ⟨e, he, ?_⟩
    rw [hnumber, dayNumber, hsucc, Nat.add_sub_cancel, dayNumber_succ, Int.add_sub_cancel]

end Date

/-! ## Instants -/

namespace Instant

variable {t u : Instant} {date : Date} {hour minute second nano : Nat} {minutes : Int}

/-- The nanoseconds up to an instant, counted like the days. Those of a leap second are counted once
more in the second after it. -/
def time (t : Instant) : Int := (86400 * t.date.dayNumber + t.second) * 1000000000 + t.nano

/-- An instant is told by its time and by whether it is in a leap second. -/
theorem eq_of_time (h : t.time = u.time) (hleap : 1000000000 ≤ t.nano ↔ 1000000000 ≤ u.nano) :
    t = u := by
  have hsecond := t.second_lt
  have hsecond' := u.second_lt
  have hnano := t.nano_lt
  have hnano' := u.nano_lt
  unfold time at h
  -- Seconds are less than a day, and both nanoseconds are on the same side of a full second.
  have hdate : t.date = u.date := Date.eq_of_dayNumber (by omega)
  rw [hdate] at h
  cases t
  cases u
  cases hdate
  simp only [mk.injEq, true_and]
  dsimp only at h hleap hsecond hsecond' hnano hnano'
  omega

theorem exists_make? (date : Date) (hhour : hour < 24) (hminute : minute < 60)
    (hsecond : second ≤ 60) (hnano : nano < 1000000000) :
    ∃ t, make? date hour minute second nano = some t ∧ t.date = date ∧
      t.time = (86400 * date.dayNumber + (3600 * hour + 60 * minute + second)) * 1000000000 + nano ∧
      (1000000000 ≤ t.nano ↔ second = 60) := by
  unfold make?
  by_cases hleap : second = 60
  · rw [dif_neg (by omega), dif_pos ⟨hhour, hminute, hleap, hnano⟩]
    refine ⟨_, rfl, rfl, ?_, ?_⟩
    · unfold time
      dsimp only
      omega
    · dsimp only
      omega
  · rw [dif_pos ⟨hhour, hminute, by omega, hnano⟩]
    refine ⟨_, rfl, rfl, ?_, ?_⟩
    · unfold time
      dsimp only
      omega
    · dsimp only
      omega

theorem bounds_of_make? (h : make? date hour minute second nano = some t) :
    hour < 24 ∧ minute < 60 ∧ second ≤ 60 := by
  unfold make? at h
  dsimp only at h
  split at h
  · omega
  · split at h
    · omega
    · cases h

/-- Minutes are taken off the time, over the start and the end of a day as well. -/
theorem exists_minusMinutes? (hminutes : -1440 < minutes ∧ minutes < 1440)
    (hyear : minutes ≠ 0 → -262143 < t.date.year ∧ t.date.year < 262142) :
    ∃ u, t.minusMinutes? minutes = some u ∧ u.time = t.time - 60 * minutes * 1000000000 ∧
      u.nano = t.nano := by
  have hsecond := t.second_lt
  unfold minusMinutes?
  dsimp only
  split
  · obtain ⟨e, he, hnumber⟩ := t.date.exists_previous? (hyear (by omega)).1
    refine ⟨_, Option.map_eq_some_iff.mpr ⟨e, he, rfl⟩, ?_, rfl⟩
    unfold time
    dsimp only
    omega
  · split
    · refine ⟨_, rfl, ?_, rfl⟩
      unfold time
      dsimp only
      omega
    · obtain ⟨e, he, hnumber⟩ := t.date.exists_next? (hyear (by omega)).2
      refine ⟨_, Option.map_eq_some_iff.mpr ⟨e, he, rfl⟩, ?_, rfl⟩
      unfold time
      dsimp only
      omega

end Instant

end RecordQuery
