/-!
# The Gregorian calendar

Dates of the proleptic Gregorian calendar and their distance in days from 1 January 1970. Years are
counted from March, so that the leap day is the last day of its year, and in cycles of 400 years,
which all have 146097 days.
-/

namespace Questionnaire

/-- A year, a month and a day of the month, as written; not every such date exists. -/
structure Date where
  /-- The year; zero is the year before year one. -/
  year : Int
  /-- The month, counted from one. -/
  month : Nat
  /-- The day of the month, counted from one. -/
  day : Nat
deriving DecidableEq, Repr

namespace Date

/-- The first year that dates are kept for. -/
def firstYear : Int := -262143

/-- The last year that dates are kept for. -/
def lastYear : Int := 262142

/-- Whether the year has a leap day. -/
def isLeapYear (year : Int) : Bool :=
  year % 4 == 0 && (year % 100 != 0 || year % 400 == 0)

/-- The number of days of a month. -/
def monthLength (year : Int) (month : Nat) : Nat :=
  if month = 2 then (if isLeapYear year then 29 else 28)
  else if month = 4 ∨ month = 6 ∨ month = 9 ∨ month = 11 then 30
  else 31

theorem monthLength_lt (year : Int) (month : Nat) : monthLength year month < 100 := by
  rw [monthLength]
  repeat' split
  all_goals decide

/-- Whether the date exists and lies in the years that dates are kept for. -/
def isValid (date : Date) : Bool :=
  firstYear ≤ date.year && date.year ≤ lastYear && 1 ≤ date.month && date.month ≤ 12 &&
    1 ≤ date.day && date.day ≤ monthLength date.year date.month

/-- The day of a cycle on which a year of the cycle begins. -/
def yearStart (year : Nat) : Nat :=
  365 * year + year / 4 - year / 100

/-- The year of a cycle that a day of the cycle lies in. -/
def yearOfDay (day : Nat) : Nat :=
  (day - day / 1460 + day / 36524 - day / 146096) / 365

/-- The day of a year on which a month begins, months being counted from March. -/
def monthStart (month : Nat) : Nat :=
  (153 * month + 2) / 5

/-- The month that a day of a year lies in, counted from March. -/
def monthOfDay (day : Nat) : Nat :=
  (5 * day + 2) / 153

/-- The year of the date, counted from March. -/
def marchYear (date : Date) : Int :=
  if date.month ≤ 2 then date.year - 1 else date.year

/-- The month of the date, counted from March. -/
def marchMonth (date : Date) : Nat :=
  (date.month + 9) % 12

/-- The date of a year and a month that are counted from March. -/
def ofMarch (year : Int) (month day : Nat) : Date where
  year := if month < 10 then year else year + 1
  month := if month < 10 then month + 3 else month - 9
  day

/-- The number of days from 1 January 1970 to the date. -/
def toDays (date : Date) : Int :=
  let dayOfYear := monthStart date.marchMonth + date.day - 1
  date.marchYear / 400 * 146097 + yearStart (date.marchYear % 400).toNat + dayOfYear - 719468

/-- The date that is a number of days after 1 January 1970. -/
def ofDays (days : Int) : Date :=
  let shifted := days + 719468
  let dayOfCycle := (shifted % 146097).toNat
  let yearOfCycle := yearOfDay dayOfCycle
  let dayOfYear := dayOfCycle - yearStart yearOfCycle
  let month := monthOfDay dayOfYear
  ofMarch (shifted / 146097 * 400 + yearOfCycle) month (dayOfYear - monthStart month + 1)

theorem yearOfDay_mono {earlier later : Nat} (order : earlier ≤ later) (inCycle : later < 146097) :
    yearOfDay earlier ≤ yearOfDay later := by
  refine Nat.div_le_div_right ?_
  induction order with
  | refl => exact Nat.le_refl _
  | @step day _ inductionHypothesis =>
    refine Nat.le_trans (inductionHypothesis (by omega)) ?_
    have cycles : (day + 1) / 146096 = 0 ∨ day + 1 = 146096 := by omega
    rcases cycles with cycle | last
    · omega
    · omega

/-- The first and the last day of each year of a cycle. -/
theorem yearOfDay_ends : ∀ year < 400,
    yearOfDay (yearStart year) = year ∧
      (yearOfDay (yearStart (year + 1) - 1) = year) := by
  decide +kernel

theorem yearOfDay_lt {day : Nat} (inCycle : day < 146097) : yearOfDay day < 400 := by
  have last : yearOfDay day ≤ yearOfDay 146096 :=
    yearOfDay_mono (Nat.le_of_lt_succ inCycle) (by decide)
  exact Nat.lt_of_le_of_lt last (by decide)

/-- A day lies in a year if the year has begun and the next one has not. -/
theorem yearOfDay_eq_iff {day year : Nat} (inCycle : day < 146097) (yearInCycle : year < 400) :
    yearOfDay day = year ↔ yearStart year ≤ day ∧ (day < yearStart (year + 1) ∨ year = 399) := by
  obtain ⟨first, last⟩ := yearOfDay_ends year yearInCycle
  have atMost := yearOfDay_lt inCycle
  have bounds : year ≤ 398 → yearStart (year + 1) < 146097 := by 
    intro h; rw [yearStart]; omega
  have bounds' : yearStart year < 146097 := by 
    rw [yearStart]; omega
  constructor
  · intro same
    constructor
    · refine Nat.le_of_not_lt fun before => ?_
      cases year with
      | zero => exact absurd before (by simp [yearStart])
      | succ previous => 
      have earlier := (yearOfDay_ends previous (by omega)).2
      have := yearOfDay_mono (Nat.le_sub_one_of_lt before) (by omega)
      omega
    · by_cases h : year = 399
      · exact .inr h
      · left
        refine Nat.lt_of_not_le fun after => ?_
        have later := (yearOfDay_ends (year + 1) (by omega)).1
        have := yearOfDay_mono after inCycle
        omega
  · rintro ⟨begun, ended⟩
    have := yearOfDay_mono begun inCycle
    have : yearOfDay day ≤ year := by
      rcases ended with h | h
      · have := yearOfDay_mono (Nat.le_sub_one_of_lt h) (by have := bounds; rw [yearStart] at *; omega)
        omega
      · omega
    omega

theorem marchYear_ofMarch (year : Int) {month : Nat} (day : Nat) (inYear : month ≤ 11) :
    (ofMarch year month day).marchYear = year := by
  simp only [marchYear, ofMarch]
  split <;> split <;> omega

theorem marchMonth_ofMarch (year : Int) {month : Nat} (day : Nat) (inYear : month ≤ 11) :
    (ofMarch year month day).marchMonth = month := by
  simp only [marchMonth, ofMarch]
  split <;> omega

/-- The months cover a year. -/
theorem monthStart_monthOfDay {day : Nat} (inYear : day ≤ 365) :
    monthOfDay day ≤ 11 ∧ monthStart (monthOfDay day) ≤ day := by
  simp only [monthOfDay, monthStart]
  omega

/-- Days are counted back as they were counted. -/
theorem toDays_ofDays (days : Int) : (ofDays days).toDays = days := by
  have inCycle : ((days + 719468) % 146097).toNat < 146097 := by omega
  have remainder : (((days + 719468) % 146097).toNat : Int) = (days + 719468) % 146097 := by omega
  have whole := Int.mul_ediv_add_emod (days + 719468) 146097
  simp only [ofDays, toDays]
  generalize ((days + 719468) % 146097).toNat = day at *
  have years : yearOfDay day < 400 := yearOfDay_lt inCycle
  obtain ⟨begun, ended⟩ := (yearOfDay_eq_iff inCycle years).1 rfl
  generalize yearOfDay day = year at *
  have inYear : day - yearStart year ≤ 365 := by
    simp only [yearStart] at *
    omega
  obtain ⟨months, monthBegun⟩ := monthStart_monthOfDay inYear
  generalize monthOfDay (day - yearStart year) = month at *
  generalize (days + 719468) / 146097 = cycle at *
  have sameCycle : (cycle * 400 + (year : Int)) / 400 = cycle := by omega
  have sameYear : ((cycle * 400 + (year : Int)) % 400).toNat = year := by omega
  rw [marchYear_ofMarch _ _ months, marchMonth_ofMarch _ _ months, sameCycle, sameYear]
  simp only [ofMarch]
  omega

/-- A date is made of what it is counted from. -/
theorem ofMarch_march {date : Date} (first : 1 ≤ date.month) (last : date.month ≤ 12) :
    ofMarch date.marchYear date.marchMonth date.day = date := by
  have isMonth : date.marchMonth = (date.month + 9) % 12 := rfl
  have isYear : date.marchYear = if date.month ≤ 2 then date.year - 1 else date.year := rfl
  have sameYear : (if date.marchMonth < 10 then date.marchYear else date.marchYear + 1) =
      date.year := by
    split at isYear <;> split <;> omega
  have sameMonth : (if date.marchMonth < 10 then date.marchMonth + 3 else date.marchMonth - 9) =
      date.month := by
    split <;> omega
  rw [ofMarch, sameYear, sameMonth]

theorem isLeapYear_iff {year : Int} :
    isLeapYear year = true ↔ year % 4 = 0 ∧ (year % 100 ≠ 0 ∨ year % 400 = 0) := by
  simp only [isLeapYear, Bool.and_eq_true, Bool.or_eq_true, beq_iff_eq, bne_iff_ne]

theorem isValid_iff {date : Date} :
    date.isValid = true ↔ (firstYear ≤ date.year ∧ date.year ≤ lastYear) ∧
      (1 ≤ date.month ∧ date.month ≤ 12) ∧
      1 ≤ date.day ∧ date.day ≤ monthLength date.year date.month := by
  simp only [isValid, Bool.and_eq_true, decide_eq_true_eq, and_assoc]

/-- A day of a month comes before the next month begins, and the last day of February is the last day
of its year. -/
theorem monthOfDay_marchMonth {date : Date} (valid : date.isValid = true) :
    date.marchMonth ≤ 11 ∧
      monthOfDay (monthStart date.marchMonth + date.day - 1) = date.marchMonth ∧
      monthStart date.marchMonth + date.day - 1 ≤
        (if isLeapYear (date.marchYear + 1) then 365 else 364) := by
  obtain ⟨_, ⟨first, last⟩, dayFirst, dayLast⟩ := isValid_iff.1 valid
  obtain ⟨year, month, day⟩ := date
  have months : month = 1 ∨ month = 2 ∨ month = 3 ∨ month = 4 ∨ month = 5 ∨ month = 6 ∨
      month = 7 ∨ month = 8 ∨ month = 9 ∨ month = 10 ∨ month = 11 ∨ month = 12 := by
    simp only at first last
    omega
  rcases months with rfl | rfl | rfl | rfl | rfl | rfl | rfl | rfl | rfl | rfl | rfl | rfl <;>
    simp [marchMonth, marchYear, monthStart, monthOfDay, monthLength] at dayFirst dayLast ⊢ <;> grind

/-- A date that exists is found again by its number of days. -/
theorem ofDays_toDays {date : Date} (valid : date.isValid = true) : ofDays date.toDays = date := by
  obtain ⟨_, ⟨first, last⟩, dayFirst, _⟩ := isValid_iff.1 valid
  obtain ⟨months, sameMonth, dayLast⟩ := monthOfDay_marchMonth valid
  have restored := ofMarch_march first last
  have leap : isLeapYear (date.marchYear + 1) = true ↔ _ := isLeapYear_iff
  simp only [toDays, ofDays]
  generalize date.marchMonth = month at *
  generalize date.marchYear = year at *
  generalize isYear : (year % 400).toNat = yearOfCycle at *
  generalize isDay : monthStart month + date.day - 1 = dayOfYear at *
  have ended : yearStart yearOfCycle + dayOfYear < yearStart (yearOfCycle + 1) ∨
      yearOfCycle = 399 := by
    simp only [yearStart] at *
    split at dayLast
    · rename_i isLeap
      have := leap.1 isLeap
      omega
    · omega
  have inCycle : yearStart yearOfCycle + dayOfYear < 146097 := by
    have : dayOfYear ≤ 365 := by split at dayLast <;> omega
    simp only [yearStart] at *
    omega
  have sameYear : yearOfDay (yearStart yearOfCycle + dayOfYear) = yearOfCycle :=
    (yearOfDay_eq_iff inCycle (by omega)).2 ⟨Nat.le_add_right _ _, ended⟩
  have remainder : (((year / 400 * 146097 + yearStart yearOfCycle + dayOfYear - 719468 + 719468) %
      146097 : Int).toNat) = yearStart yearOfCycle + dayOfYear := by omega
  have cycle : ((year / 400 * 146097 + yearStart yearOfCycle + dayOfYear - 719468 + 719468) /
      146097 : Int) = year / 400 := by omega
  have whole : year / 400 * 400 + (yearOfCycle : Int) = year := by omega
  have sameDay : dayOfYear - monthStart month + 1 = date.day := by omega
  rw [remainder, cycle, sameYear, Nat.add_sub_cancel_left, sameMonth, whole, sameDay, restored]

/-- A number with zeros in front up to a length. -/
def padded (length value : Nat) : String :=
  let digits := toString value
  String.ofList (List.replicate (length - digits.length) '0') ++ digits

/-- The year with four digits, and with a sign and at least four digits outside 0 to 9999. -/
def renderYear (year : Int) : String :=
  if 0 ≤ year ∧ year ≤ 9999 then padded 4 year.toNat
  else (if year < 0 then "-" else "+") ++ padded 4 year.natAbs

/-- The date as year, month and day with hyphens between them. -/
def render (date : Date) : String :=
  renderYear date.year ++ "-" ++ padded 2 date.month ++ "-" ++ padded 2 date.day

end Date

end Questionnaire
