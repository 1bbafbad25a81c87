import SessionKit.Time.Timestamp
import Mathlib.Tactic.IntervalCases
import Mathlib.Tactic.Lift

/-!
# Days and their dates

Every day has a date that the calendar has, and the date leads back to the day. For this a cycle of
400 years is taken apart into centuries, groups of four years, years and days. Years are counted
from March, so that a leap day is the last day of its year and a day beyond 365 in none but the last
year of four.
-/

namespace SessionKit.Date

/-- A day of a cycle of 400 years. -/
structure DayOfCycle where
  century : Nat
  /-- The four years of the century. -/
  four : Nat
  /-- The year of the four. -/
  year : Nat
  day : Nat
  century_lt : century < 4
  four_lt : four < 25
  year_lt : year < 4
  day_le : day ≤ 365
  /-- A leap day ends four years, unless they end a century that does not end the cycle. -/
  ends_of_leap : day = 365 → year = 3 ∧ (four = 24 → century = 3)

namespace DayOfCycle

variable {d : DayOfCycle} {cycles days : Int}

/-- The days of the cycle before it. -/
def number (d : DayOfCycle) : Int := 36524 * d.century + 1461 * d.four + 365 * d.year + d.day

/-- The years of the cycle before it. -/
def yearNumber (d : DayOfCycle) : Int := 100 * d.century + 4 * d.four + d.year

theorem number_bounds (d : DayOfCycle) : 0 ≤ d.number ∧ d.number < cycle := by
  obtain ⟨c, b, y, k, hc, hb, hy, hk, leap⟩ := d
  simp only [number, cycle]
  omega

theorem yearNumber_bounds (d : DayOfCycle) : 0 ≤ d.yearNumber ∧ d.yearNumber < 400 := by
  obtain ⟨c, b, y, k, hc, hb, hy, hk, leap⟩ := d
  simp only [yearNumber]
  omega

theorem exists_number_eq {n : Int} (low : 0 ≤ n) (high : n < cycle) :
    ∃ d : DayOfCycle, d.number = n := by
  unfold cycle at high
  lift n to Nat using low
  -- The last century and the last year of four may have a day more than the others.
  let century := min (n / 36524) 3
  let ofCentury := n - 36524 * century
  let year := min (ofCentury % 1461 / 365) 3
  refine ⟨{
    century := century
    four := ofCentury / 1461
    year := year
    day := ofCentury % 1461 - 365 * year
    century_lt := by omega
    four_lt := by omega
    year_lt := by omega
    day_le := by omega
    ends_of_leap := by omega }, ?_⟩
  simp only [number]
  omega

/-! ## Its year -/

/-- Without the leap days before it, a day is so many times 365 days away as there are years. -/
theorem year_of_number (d : DayOfCycle) :
    (d.number - d.number / 1460 + d.number / 36524 - d.number / 146096) / 365 = d.yearNumber := by
  obtain ⟨c, b, y, k, hc, hb, hy, hk, leap⟩ := d
  simp only [number, yearNumber]
  generalize same : (36524 * c + 1461 * b + 365 * y + k : Int) = n
  have centuries : n / 36524 - n / 146096 = c := by
    by_cases last : n = 146096
    · subst last
      omega
    · have first : n / 146096 = 0 := by omega
      have within : 1461 * b + 365 * y + k < 36524 := by omega
      omega
  by_cases late : 1460 ≤ 24 * c + b + 365 * y + k
  · have fours : n / 1460 = 25 * c + b + 1 := by omega
    omega
  · have fours : n / 1460 = 25 * c + b := by omega
    omega

theorem day_of_number (d : DayOfCycle) :
    d.number - (365 * d.yearNumber + d.yearNumber / 4 - d.yearNumber / 100) = d.day := by
  obtain ⟨c, b, y, k, hc, hb, hy, hk, leap⟩ := d
  simp only [number, yearNumber]
  omega

theorem isLeapYear_succ (h : d.day = 365) : isLeapYear (400 * cycles + d.yearNumber + 1) := by
  obtain ⟨last, ends⟩ := d.ends_of_leap h
  have := d.century_lt
  have := d.four_lt
  simp only [isLeapYear, yearNumber, last, Bool.and_eq_true, Bool.or_eq_true, decide_eq_true_eq]
  omega

/-! ## Its date -/

/-- Months count from March, from zero. -/
def month (d : DayOfCycle) : Nat := (5 * d.day + 2) / 153

theorem month_lt (d : DayOfCycle) : d.month < 12 := by
  have := d.day_le
  unfold month
  omega

/-- A year that begins in March ends two months into the next year of the calendar. -/
theorem month_lt_ten (d : DayOfCycle) : d.month < 10 ↔ d.day < 306 := by
  unfold month
  omega

/-- The day lies between the first day of its month and that of the next one. -/
theorem month_bounds (d : DayOfCycle) :
    (153 * d.month + 2) / 5 ≤ d.day ∧ d.day < (153 * (d.month + 1) + 2) / 5 := by
  unfold month
  omega

/-- The date of the day, if so many cycles have gone by. -/
def date (cycles : Int) (d : DayOfCycle) : Date :=
  let year := 400 * cycles + d.yearNumber
  let day := d.day - (153 * d.month + 2) / 5 + 1
  if d.month < 10 then { year, month := d.month + 3, day }
  else { year := year + 1, month := d.month - 9, day }

theorem ofDays_eq_date (h : days = cycles * cycle + d.number - epoch) :
    ofDays days = d.date cycles := by
  obtain ⟨low, high⟩ := d.number_bounds
  have same : days + epoch = d.number + cycles * cycle := by omega
  have number : (days + epoch) % cycle = d.number := by
    rw [same, Int.add_mul_emod_self_right, Int.emod_eq_of_lt low high]
  have whole : (days + epoch) / cycle = cycles := by
    rw [same, Int.add_mul_ediv_right _ _ (by decide), Int.ediv_eq_zero_of_lt low high, Int.zero_add]
  have month : (5 * (d.day : Int) + 2) / 153 = d.month := by simp [DayOfCycle.month]
  have := d.month_bounds
  unfold ofDays
  simp only [number, whole, d.year_of_number, d.day_of_number, month, daysBeforeMonth]
  unfold date
  by_cases spring : d.month < 10
  · rw [if_pos spring, if_pos (by omega), Date.mk.injEq]
    omega
  · rw [if_neg spring, if_neg (by omega), Date.mk.injEq]
    omega

theorem toDays_date (d : DayOfCycle) (cycles : Int) :
    (d.date cycles).toDays = cycles * cycle + d.number - epoch := by
  have := d.month_bounds
  have := d.month_lt
  have day := d.day_of_number
  have years := d.yearNumber_bounds
  have ofCycle : (400 * cycles + d.yearNumber) % 400 = d.yearNumber := by omega
  have whole : (400 * cycles + d.yearNumber) / 400 = cycles := by omega
  unfold date
  by_cases spring : d.month < 10
  · have later : ¬ d.month + 3 ≤ 2 := by omega
    simp only [if_pos spring, toDays, if_neg later, ofCycle, whole, daysBeforeMonth]
    omega
  · have early : d.month - 9 ≤ 2 := by omega
    simp only [if_neg spring, toDays, if_pos early, Int.add_sub_cancel, ofCycle, whole,
      daysBeforeMonth]
    omega

/-- From March to December the lengths of the months do not depend on the year. -/
theorem daysInMonth_of_lt {m : Nat} (h : m < 10) (year : Int) :
    daysInMonth year (m + 3) = (153 * (m + 1) + 2) / 5 - (153 * m + 2) / 5 := by
  interval_cases m <;> rfl

theorem isValid_date (d : DayOfCycle) (cycles : Int) : (d.date cycles).isValid := by
  have day := d.month_bounds
  have bound := d.month_lt
  simp only [isValid, Bool.and_eq_true, decide_eq_true_eq]
  unfold date
  by_cases spring : d.month < 10
  · simp only [if_pos spring, daysInMonth_of_lt spring]
    omega
  obtain january | february : d.month = 10 ∨ d.month = 11 := by omega
  · have length (year : Int) : daysInMonth year 1 = 31 := rfl
    rw [january] at day
    simp only [january, if_neg (show ¬ 10 < 10 by decide), length]
    omega
  · have length (year : Int) : daysInMonth year 2 = if isLeapYear year then 29 else 28 := rfl
    rw [february] at day
    simp only [february, if_neg (show ¬ 11 < 10 by decide), Nat.reduceSub, length]
    by_cases leap : d.day = 365
    · rw [if_pos (isLeapYear_succ leap)]
      omega
    · have short : d.day ≤ 364 := Nat.le_of_lt_succ (Nat.lt_of_le_of_ne d.day_le leap)
      have least : 28 ≤ if isLeapYear (400 * cycles + d.yearNumber + 1) then 29 else 28 := by
        split <;> decide
      omega

end DayOfCycle

theorem bounds_of_isValid {d : Date} (valid : d.isValid) :
    1 ≤ d.month ∧ d.month ≤ 12 ∧ 1 ≤ d.day ∧ d.day ≤ 31 := by
  simp only [isValid, Bool.and_eq_true, decide_eq_true_eq] at valid
  have longest : daysInMonth d.year d.month ≤ 31 := by
    unfold daysInMonth
    split <;> split <;> decide
  omega

/-! ## All days -/

theorem exists_ofDays_eq_date (days : Int) :
    ∃ (cycles : Int) (d : DayOfCycle), days = cycles * cycle + d.number - epoch ∧
      ofDays days = d.date cycles := by
  have low := Int.emod_nonneg (days + epoch) (b := cycle) (by decide)
  have high := Int.emod_lt_of_pos (days + epoch) (b := cycle) (by decide)
  obtain ⟨d, number⟩ := DayOfCycle.exists_number_eq low high
  have same : days = (days + epoch) / cycle * cycle + d.number - epoch := by
    have := Int.mul_ediv_add_emod (days + epoch) cycle
    rw [number, Int.mul_comm]
    omega
  exact ⟨_, d, same, DayOfCycle.ofDays_eq_date same⟩

theorem isValid_ofDays (days : Int) : (ofDays days).isValid := by
  obtain ⟨cycles, d, -, date⟩ := exists_ofDays_eq_date days
  rw [date]
  exact d.isValid_date cycles

theorem toDays_ofDays (days : Int) : (ofDays days).toDays = days := by
  obtain ⟨cycles, d, same, date⟩ := exists_ofDays_eq_date days
  rw [date, d.toDays_date, same]

/-- The days of points in time fall into the years of points in time. -/
theorem year_ofDays_bounds {days : Int} (low : Timestamp.firstSecond / secondsPerDay ≤ days)
    (high : days ≤ Timestamp.lastSecond / secondsPerDay) :
    -262143 ≤ (ofDays days).year ∧ (ofDays days).year ≤ 262142 := by
  obtain ⟨cycles, d, same, date⟩ := exists_ofDays_eq_date days
  rw [show Timestamp.firstSecond / secondsPerDay = -96465292 by decide] at low
  rw [show Timestamp.lastSecond / secondsPerDay = 95026236 by decide] at high
  have spring := d.month_lt_ten
  have number := d.number_bounds
  have years := d.yearNumber_bounds
  simp only [cycle, epoch] at same number
  -- Of the first and of the last cycle there is only a part.
  have first : cycles = -656 → 256 ≤ d.yearNumber ∧ (d.yearNumber = 256 → 306 ≤ d.day) := by
    intro first
    have : 93808 ≤ d.number := by omega
    clear same low high number spring date years
    obtain ⟨c, b, y, k, hc, hb, hy, hk, leap⟩ := d
    simp only [DayOfCycle.number, DayOfCycle.yearNumber] at *
    omega
  have last : cycles = 655 → d.yearNumber ≤ 142 ∧ (d.yearNumber = 142 → d.day < 306) := by
    intro last
    have : d.number ≤ 52169 := by omega
    clear same low high number spring date years first
    obtain ⟨c, b, y, k, hc, hb, hy, hk, leap⟩ := d
    simp only [DayOfCycle.number, DayOfCycle.yearNumber] at *
    omega
  rw [date, DayOfCycle.date]
  split
  · simp only
    omega
  · simp only
    omega

end SessionKit.Date
