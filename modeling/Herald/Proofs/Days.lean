import Herald.Calendar
import Mathlib.Tactic.IntervalCases

/-!
# The days of the calendar

Each day has one date and each date one day: the dates of the days are found by going from one date to
the next, in both directions and without end.

* `Date.FallsOn` says so, from the first day of 1970 on, by `Date.next` alone.
* `MarchDay` is a day of a year that begins in March, where the leap day comes last.
  `MarchDay.exists_number`, `MarchDay.exists_date` and `MarchDay.exists_next`: every day is one of
  these, every date is that of one, and they follow one another as dates do.
* `MarchDay.ofDay_number` finds the date of such a day: within an era, its year is counted by centuries
  and groups of four years (`EraDay.yearOfEra_dayOfEra`).
* `Date.ofDay_succ`, `Date.ofDay_injective` and `Date.fallsOn_iff`: the date found for a day is the
  one that falls on it.
-/

namespace Herald

namespace Date

/-- The calendar has the date. -/
structure IsValid (d : Date) : Prop where
  month_pos : 1 ≤ d.month
  month_le : d.month ≤ 12
  day_pos : 1 ≤ d.day
  day_le : d.day ≤ daysInMonth d.year d.month

/-- The day that a date falls on: the first of January 1970 falls on day 0, and of two dates that
follow one another, one falls on a day if the other one does on the day beside it. -/
inductive FallsOn : Date → Int → Prop where
  | epoch : FallsOn ⟨1970, 1, 1⟩ 0
  | next {d : Date} {day : Int} (h : FallsOn d day) : FallsOn d.next (day + 1)
  | previous {d : Date} {day : Int} (hd : d.IsValid) (h : FallsOn d.next (day + 1)) : FallsOn d day

theorem isLeap_iff {year : Int} :
    isLeap year = true ↔ year % 4 = 0 ∧ (year % 100 ≠ 0 ∨ year % 400 = 0) := by
  simp [isLeap]

end Date

/-! ## Years that begin in March -/

/-- The days from the first of March of the year 0 to that of another year. -/
def marchFirst (year : Int) : Int :=
  365 * year + year / 4 - year / 100 + year / 400

/-- The days from the first of March to the first of a month. Here and below, months are counted from
March, which is 0. -/
def monthFirst (month : Nat) : Nat :=
  (153 * month + 2) / 5

/-- The year that a month belongs to: the last two belong to the year that begins with them. -/
def civilYear (year : Int) (month : Nat) : Int :=
  if month < 10 then year else year + 1

/-- The number of a month, counted from January, which is 1. -/
def civilMonth (month : Nat) : Nat :=
  if month < 10 then month + 3 else month - 9

/-- How many days a month has. -/
def monthLength (year : Int) (month : Nat) : Nat :=
  Date.daysInMonth (civilYear year month) (civilMonth month)

theorem monthFirst_succ (year : Int) {month : Nat} (h : month < 11) :
    monthFirst (month + 1) = monthFirst month + monthLength year month := by
  interval_cases month <;> rfl

theorem monthLength_february (year : Int) :
    monthLength year 11 = if Date.isLeap (year + 1) then 29 else 28 :=
  rfl

theorem monthLength_pos (year : Int) {month : Nat} (h : month ≤ 11) :
    0 < monthLength year month := by
  by_cases hmonth : month = 11
  · subst hmonth
    rw [monthLength_february]
    split <;> decide
  · have hnext := monthFirst_succ year (show month < 11 by omega)
    simp only [monthFirst] at hnext
    omega

/-- A day of a year that begins in March; the days of a month are counted from 0. -/
structure MarchDay where
  year : Int
  month : Nat
  day : Nat
  month_le : month ≤ 11
  day_lt : day < monthLength year month

namespace MarchDay

/-- The days from the first of March on. -/
def dayOfYear (p : MarchDay) : Nat :=
  monthFirst p.month + p.day

/-- The days from the first of January 1970 on. -/
def number (p : MarchDay) : Int :=
  marchFirst p.year + p.dayOfYear - 719468

def date (p : MarchDay) : Date where
  year := civilYear p.year p.month
  month := civilMonth p.month
  day := p.day + 1

/-- Only a year that ends with a leap day has a day 365. -/
theorem dayOfYear_le (p : MarchDay) :
    p.dayOfYear ≤ 364 ∨ (p.dayOfYear = 365 ∧ Date.isLeap (p.year + 1) = true) := by
  obtain ⟨year, month, day, hmonth, hday⟩ := p
  simp only [dayOfYear, monthFirst]
  by_cases h : month = 11
  · subst h
    rw [monthLength_february] at hday
    split at hday
    · next hleap =>
      simp only [hleap, and_true]
      omega
    · omega
  · have hnext := monthFirst_succ year (show month < 11 by omega)
    simp only [monthFirst] at hnext
    omega

/-- A year has these days. -/
theorem exists_dayOfYear {year : Int} {day : Nat}
    (h : day ≤ 364 ∨ (day = 365 ∧ Date.isLeap (year + 1) = true)) :
    ∃ p : MarchDay, p.year = year ∧ p.dayOfYear = day := by
  obtain ⟨month, hmonth⟩ : ∃ month, month = (5 * day + 2) / 153 := ⟨_, rfl⟩
  have hmonth_le : month ≤ 11 := by omega
  have hfirst : monthFirst month ≤ day := by
    rw [monthFirst]
    omega
  have hlt : day - monthFirst month < monthLength year month := by
    by_cases hfebruary : month = 11
    · rw [hfebruary, monthLength_february, show monthFirst 11 = 337 from rfl]
      split
      · omega
      · next hleap =>
        have hle : day ≤ 364 := h.resolve_right fun hlast => hleap hlast.2
        omega
    · have hnext := monthFirst_succ year (show month < 11 by omega)
      simp only [monthFirst] at hnext ⊢
      omega
  exact ⟨⟨year, month, day - monthFirst month, hmonth_le, hlt⟩, rfl, Nat.add_sub_cancel' hfirst⟩

/-- The month can be told from the day of the year. -/
theorem month_eq (p : MarchDay) : (5 * p.dayOfYear + 2) / 153 = p.month := by
  have hle := p.dayOfYear_le
  obtain ⟨year, month, day, hmonth, hday⟩ := p
  simp only [dayOfYear, monthFirst] at hle ⊢
  by_cases h : month = 11
  · omega
  · have hnext := monthFirst_succ year (show month < 11 by omega)
    simp only [monthFirst] at hnext
    omega

theorem isValid_date (p : MarchDay) : p.date.IsValid := by
  have hmonth := p.month_le
  constructor
  case month_pos =>
    simp only [date, civilMonth]
    split <;> omega
  case month_le =>
    simp only [date, civilMonth]
    split <;> omega
  case day_pos => exact Nat.le_add_left 1 p.day
  case day_le => exact p.day_lt

theorem date_injective {p q : MarchDay} (h : p.date = q.date) : p = q := by
  obtain ⟨year, month, day, hmonth, hday⟩ := p
  obtain ⟨year', month', day', hmonth', hday'⟩ := q
  obtain ⟨hyears, hmonths, hdays⟩ := Date.mk.inj h
  simp only [civilYear, civilMonth] at hyears hmonths hdays
  obtain rfl : month = month' := by split at hmonths <;> split at hmonths <;> omega
  obtain rfl : year = year' := by split at hyears <;> omega
  obtain rfl : day = day' := by omega
  rfl

/-- Every date of the calendar is that of such a day. -/
theorem exists_date {d : Date} (h : d.IsValid) : ∃ p : MarchDay, p.date = d := by
  obtain ⟨year, month, day⟩ := d
  obtain ⟨hmonth_pos, hmonth_le, hday_pos, hday_le⟩ := h
  simp only at hmonth_pos hmonth_le
  obtain ⟨day, rfl⟩ := Nat.exists_eq_add_of_le' hday_pos
  -- January and February end the year before
  obtain ⟨year', month', hle, hyear, hmonth⟩ : ∃ year' month', month' ≤ 11 ∧
      civilYear year' month' = year ∧ civilMonth month' = month := by
    by_cases h : month ≤ 2
    · refine ⟨year - 1, month + 9, by omega, ?_, ?_⟩
      · rw [civilYear, if_neg (by omega), Int.sub_add_cancel]
      · rw [civilMonth, if_neg (by omega), Nat.add_sub_cancel]
    · refine ⟨year, month - 3, by omega, ?_, ?_⟩
      · rw [civilYear, if_pos (by omega)]
      · rw [civilMonth, if_pos (by omega)]
        omega
  subst hyear hmonth
  exact ⟨⟨year', month', day, hle, hday_le⟩, rfl⟩

/-- The day behind such a day has the following date. -/
theorem exists_next (p : MarchDay) :
    ∃ q : MarchDay, q.date = p.date.next ∧ q.number = p.number + 1 := by
  obtain ⟨year, month, day, hmonth, hday⟩ := p
  by_cases hmore : day + 1 < monthLength year month
  · refine ⟨⟨year, month, day + 1, hmonth, hmore⟩, (if_pos hmore).symm, ?_⟩
    simp only [number, dayOfYear]
    omega
  have hlast : day + 1 = monthLength year month := by omega
  by_cases hfebruary : month = 11
  · -- the year ends
    subst hfebruary
    refine ⟨⟨year + 1, 0, 0, by omega, monthLength_pos _ (by omega)⟩, (if_neg hmore).symm, ?_⟩
    rw [monthLength_february] at hlast
    simp only [number, dayOfYear, monthFirst, marchFirst, Date.isLeap_iff] at hlast ⊢
    split at hlast <;> omega
  · refine ⟨⟨year, month + 1, 0, by omega, monthLength_pos _ (by omega)⟩, ?_, ?_⟩
    · refine Eq.trans ?_ (if_neg hmore).symm
      interval_cases month <;> rfl
    · have hnext := monthFirst_succ year (show month < 11 by omega)
      simp only [number, dayOfYear]
      omega

end MarchDay

/-! ## Eras -/

/-- A day of an era of 400 years, which begins in March: the century that it is in, the group of four
years within that, the year of the group and the day of the year. -/
structure EraDay where
  century : Nat
  group : Nat
  year : Nat
  day : Nat
  century_le : century ≤ 3
  group_le : group ≤ 24
  year_le : year ≤ 3
  /-- A group ends with a leap day, but for the last groups of the first three centuries. -/
  day_le : day ≤ 364 ∨ (day = 365 ∧ year = 3 ∧ (group < 24 ∨ century = 3))

namespace EraDay

/-- The days from the beginning of the era on. -/
def dayOfEra (e : EraDay) : Nat :=
  36524 * e.century + 1461 * e.group + 365 * e.year + e.day

/-- The years from the beginning of the era on. -/
def yearOfEra (e : EraDay) : Nat :=
  100 * e.century + 4 * e.group + e.year

theorem exists_dayOfEra {day : Nat} (h : day < 146097) : ∃ e : EraDay, e.dayOfEra = day := by
  -- the last century and the last year of a group are a day longer than the others
  obtain ⟨century, ofCentury, hcentury, hday, hlong⟩ : ∃ century ofCentury, century ≤ 3 ∧
      day = 36524 * century + ofCentury ∧
      (ofCentury < 36524 ∨ (ofCentury = 36524 ∧ century = 3)) :=
    ⟨min 3 (day / 36524), day - 36524 * min 3 (day / 36524), by omega, by omega, by omega⟩
  obtain ⟨year, rest, hyear, hgroup, hlast⟩ : ∃ year rest, year ≤ 3 ∧
      ofCentury % 1461 = 365 * year + rest ∧ (rest < 365 ∨ (rest = 365 ∧ year = 3)) :=
    ⟨min 3 (ofCentury % 1461 / 365), ofCentury % 1461 - 365 * min 3 (ofCentury % 1461 / 365),
      by omega, by omega, by omega⟩
  refine ⟨⟨century, ofCentury / 1461, year, rest, hcentury, by omega, hyear, by omega⟩, ?_⟩
  simp only [dayOfEra]
  omega

theorem dayOfEra_lt (e : EraDay) : e.dayOfEra < 146097 := by
  obtain ⟨century, group, year, day, hcentury, hgroup, hyear, hday⟩ := e
  simp only [dayOfEra]
  omega

/-- The year is found. What is taken away for the leap days of the era is at most one day too many,
and that only late in a year. -/
theorem yearOfEra_dayOfEra (e : EraDay) : Date.yearOfEra e.dayOfEra = e.yearOfEra := by
  obtain ⟨century, group, year, day, hcentury, hgroup, hyear, hday⟩ := e
  simp only [dayOfEra, yearOfEra]
  obtain ⟨leap, hgroups, hleap_le, hday_le⟩ : ∃ leap,
      (36524 * century + 1461 * group + 365 * year + day) / 1460 = 25 * century + group + leap ∧
      leap ≤ day ∧ day - leap ≤ 364 :=
    ⟨(24 * century + group + 365 * year + day) / 1460, by omega, by omega, by omega⟩
  have hcenturies : (36524 * century + 1461 * group + 365 * year + day) / 36524 =
      century + (36524 * century + 1461 * group + 365 * year + day) / 146096 := by
    have hlast : 1461 * group + 365 * year + day ≤ 36524 ∧
        (century < 3 → 1461 * group + 365 * year + day < 36524) := by omega
    rw [Nat.add_assoc, Nat.add_assoc, ← Nat.add_assoc (1461 * group)]
    generalize 1461 * group + 365 * year + day = ofCentury at hlast ⊢
    interval_cases century <;> omega
  rw [Date.yearOfEra, hgroups, hcenturies]
  omega

/-- The days of an era are those of its years. -/
theorem marchFirst_add_day (e : EraDay) (era : Int) :
    marchFirst (400 * era + e.yearOfEra) + e.day = 146097 * era + e.dayOfEra := by
  obtain ⟨century, group, year, day, hcentury, hgroup, hyear, -⟩ := e
  simp only [marchFirst, yearOfEra, dayOfEra]
  omega

/-- The year has the day. -/
theorem day_le_of_isLeap (e : EraDay) (era : Int) :
    e.day ≤ 364 ∨ (e.day = 365 ∧ Date.isLeap (400 * era + e.yearOfEra + 1) = true) := by
  obtain ⟨century, group, year, day, hcentury, hgroup, -, hday⟩ := e
  simp only [yearOfEra, Date.isLeap_iff]
  omega

/-- The date of a day of an era. -/
theorem ofDay_eq (e : EraDay) {n era : Int} (hn : n + 719468 = 146097 * era + e.dayOfEra) :
    Date.ofDay n = ⟨civilYear (400 * era + e.yearOfEra) ((5 * e.day + 2) / 153),
      civilMonth ((5 * e.day + 2) / 153), e.day - monthFirst ((5 * e.day + 2) / 153) + 1⟩ := by
  have hlt := e.dayOfEra_lt
  have hera : (n + 719468) / 146097 = era := by omega
  have hofEra : ((n + 719468) % 146097).toNat = e.dayOfEra := by omega
  have hofYear : e.dayOfEra - (365 * e.yearOfEra + e.yearOfEra / 4 - e.yearOfEra / 100) = e.day := by
    have hyear := e.marchFirst_add_day 0
    have hyear_lt : e.yearOfEra < 400 := by
      obtain ⟨century, group, year, day, hcentury, hgroup, hyear, -⟩ := e
      simp only [yearOfEra]
      omega
    simp only [marchFirst, Int.mul_zero, Int.zero_add] at hyear
    omega
  have hmonth : (5 * e.day + 2) / 153 ≤ 11 := by
    have hday := e.day_le
    omega
  simp only [Date.ofDay, hera, hofEra, e.yearOfEra_dayOfEra, hofYear]
  generalize (5 * e.day + 2) / 153 = month at hmonth ⊢
  simp only [civilYear, civilMonth, monthFirst, Date.mk.injEq, and_true]
  split <;> split <;> omega

end EraDay

namespace MarchDay

/-- A day of a year is one of an era. -/
theorem exists_eraDay (p : MarchDay) :
    ∃ (era : Int) (e : EraDay), p.year = 400 * era + e.yearOfEra ∧ p.dayOfYear = e.day := by
  refine ⟨p.year / 400, ⟨(p.year % 400 / 100).toNat, (p.year % 100 / 4).toNat,
    (p.year % 4).toNat, p.dayOfYear, by omega, by omega, by omega, ?_⟩, ?_, rfl⟩
  · rcases p.dayOfYear_le with hle | ⟨hlast, hleap⟩
    · exact .inl hle
    · rw [Date.isLeap_iff] at hleap
      omega
  · simp only [EraDay.yearOfEra]
    omega

/-- The date of a day is found. -/
theorem ofDay_number (p : MarchDay) : Date.ofDay p.number = p.date := by
  obtain ⟨era, e, hyear, hday⟩ := p.exists_eraDay
  have hnumber : p.number + 719468 = 146097 * era + e.dayOfEra := by
    rw [number, hyear, hday, ← e.marchFirst_add_day era]
    omega
  rw [e.ofDay_eq hnumber, ← hyear, ← hday, p.month_eq, dayOfYear, Nat.add_sub_cancel_left]
  rfl

/-- Every day is a day of a year that begins in March. -/
theorem exists_number (n : Int) : ∃ p : MarchDay, p.number = n := by
  obtain ⟨e, hday⟩ :=
    EraDay.exists_dayOfEra (show ((n + 719468) % 146097).toNat < 146097 by omega)
  have hdays := e.marchFirst_add_day ((n + 719468) / 146097)
  obtain ⟨p, hyear, hrest⟩ := exists_dayOfYear (e.day_le_of_isLeap ((n + 719468) / 146097))
  refine ⟨p, ?_⟩
  rw [number, hyear, hrest]
  omega

end MarchDay

/-! ## Dates and days -/

namespace Date

theorem isValid_ofDay (n : Int) : (ofDay n).IsValid := by
  obtain ⟨p, rfl⟩ := MarchDay.exists_number n
  rw [MarchDay.ofDay_number]
  exact p.isValid_date

/-- The following day has the following date. -/
theorem ofDay_succ (n : Int) : ofDay (n + 1) = (ofDay n).next := by
  obtain ⟨p, rfl⟩ := MarchDay.exists_number n
  obtain ⟨q, hdate, hnumber⟩ := p.exists_next
  rw [← hnumber, MarchDay.ofDay_number, MarchDay.ofDay_number, hdate]

/-- No two days have the same date. -/
theorem ofDay_injective : Function.Injective ofDay := by
  intro m n h
  obtain ⟨p, rfl⟩ := MarchDay.exists_number m
  obtain ⟨q, rfl⟩ := MarchDay.exists_number n
  rw [MarchDay.ofDay_number, MarchDay.ofDay_number] at h
  rw [MarchDay.date_injective h]

theorem exists_ofDay {d : Date} (h : d.IsValid) : ∃ n, ofDay n = d := by
  obtain ⟨p, rfl⟩ := MarchDay.exists_date h
  exact ⟨p.number, MarchDay.ofDay_number p⟩

theorem FallsOn.ofDay_eq {d : Date} {n : Int} (h : FallsOn d n) : ofDay n = d := by
  induction h with
  | epoch => decide
  | next _ ih => rw [ofDay_succ, ih]
  | @previous d n hd _ ih =>
    obtain ⟨m, rfl⟩ := exists_ofDay hd
    rw [← ofDay_succ] at ih
    have hday : n + 1 = m + 1 := ofDay_injective ih
    rw [show n = m by omega]

theorem fallsOn_ofDay (n : Int) : FallsOn (ofDay n) n := by
  induction n with
  | zero => exact .epoch
  | succ n ih =>
    rw [ofDay_succ]
    exact ih.next
  | pred n ih =>
    refine .previous (isValid_ofDay _) ?_
    rwa [← ofDay_succ, Int.sub_add_cancel]

/-- The date found for a day is the one that falls on it. -/
theorem fallsOn_iff {d : Date} {n : Int} : FallsOn d n ↔ ofDay n = d := by
  refine ⟨FallsOn.ofDay_eq, ?_⟩
  rintro rfl
  exact fallsOn_ofDay n

end Date

end Herald
