/-
Esp32Mod/Gregorian.lean

The proleptic Gregorian calendar, and its day numbers.

Day 0 is the first of January 1970, and years and days go on below it.  `Date.dayNumber` counts
the days, and `Date.ofDayNumber` finds the date: an estimate of the year from the length of 400
years, which is at most one year off, and a walk through the months.

A `Date` carries that its day exists.  So the two are inverses without any condition, and a date
is determined by its day number.
-/
import Mathlib.Algebra.Order.BigOperators.Group.List
import Mathlib.Algebra.Order.Ring.Int
import Mathlib.Data.List.GetD
import Mathlib.Tactic.Common

namespace Gregorian

/-! ### Consecutive blocks -/

/-- The block in which position `n` lies, and where it lies in the block. -/
def locate : List Int → Int → Nat × Int
  | [], n => (0, n)
  | length :: lengths, n =>
    if n < length then (0, n)
    else ((locate lengths (n - length)).1 + 1, (locate lengths (n - length)).2)

theorem locate_spec (lengths : List Int) (n : Int) (hnonneg : 0 ≤ n) (hn : n < lengths.sum) :
    (locate lengths n).1 < lengths.length ∧ 0 ≤ (locate lengths n).2 ∧
      (locate lengths n).2 < lengths.getD (locate lengths n).1 0 ∧
      (lengths.take (locate lengths n).1).sum + (locate lengths n).2 = n := by
  induction lengths generalizing n with
  | nil =>
    rw [List.sum_nil] at hn
    omega
  | cons length lengths ih =>
    rw [List.sum_cons] at hn
    unfold locate
    split
    next hlt => exact ⟨Nat.zero_lt_succ _, hnonneg, hlt, Int.zero_add n⟩
    next hge =>
      obtain ⟨hblock, hfrom, hto, hsum⟩ := ih (n - length) (by omega) (by omega)
      refine ⟨Nat.succ_lt_succ hblock, hfrom, hto, ?_⟩
      rw [List.take_succ_cons, List.sum_cons]
      omega

/-- `locate` finds every position of every block. -/
theorem locate_sum_take (lengths : List Int) (hnonneg : ∀ length ∈ lengths, 0 ≤ length) (i : Nat)
    (r : Int) (hfrom : 0 ≤ r) (hto : r < lengths.getD i 0) :
    locate lengths ((lengths.take i).sum + r) = (i, r) := by
  induction lengths generalizing i with
  | nil =>
    rw [List.getD_nil] at hto
    omega
  | cons length lengths ih =>
    have hrest := ih fun length hmem => hnonneg length (List.mem_cons_of_mem _ hmem)
    unfold locate
    cases i with
    | zero =>
      rw [List.take_zero, List.sum_nil, Int.zero_add, if_pos]
      exact hto
    | succ i =>
      have hsum : 0 ≤ (lengths.take i).sum :=
        List.sum_nonneg fun length hmem =>
          hnonneg length (List.mem_cons_of_mem _ (List.mem_of_mem_take hmem))
      rw [List.take_succ_cons, List.sum_cons, if_neg (by omega),
        show length + (lengths.take i).sum + r - length = (lengths.take i).sum + r by omega,
        hrest i hto]

/-! ### Years -/

/-- A leap year. -/
def Leap (year : Int) : Prop := (year % 4 = 0 ∧ year % 100 ≠ 0) ∨ year % 400 = 0

instance (year : Int) : Decidable (Leap year) :=
  inferInstanceAs (Decidable ((year % 4 = 0 ∧ year % 100 ≠ 0) ∨ year % 400 = 0))

/-- The days of each month of a year. -/
def monthLengths (year : Int) : List Int :=
  [31, if Leap year then 29 else 28, 31, 30, 31, 30, 31, 31, 30, 31, 30, 31]

/-- The days of a year. -/
def yearLength (year : Int) : Int := if Leap year then 366 else 365

/-- The days from the first of January 1970 to that of `year`. -/
def daysBeforeYear (year : Int) : Int :=
  365 * (year - 1970) + ((year - 1) / 4 - (year - 1) / 100 + (year - 1) / 400) - 477

theorem sum_monthLengths (year : Int) : (monthLengths year).sum = yearLength year := by
  unfold monthLengths yearLength
  split <;> rfl

theorem monthLengths_nonneg (year : Int) : ∀ length ∈ monthLengths year, 0 ≤ length := by
  unfold monthLengths
  split <;> decide

theorem daysBeforeYear_succ (year : Int) :
    daysBeforeYear (year + 1) = daysBeforeYear year + yearLength year := by
  unfold daysBeforeYear yearLength
  split
  next hleap =>
    unfold Leap at hleap
    omega
  next hleap =>
    unfold Leap at hleap
    omega

theorem daysBeforeYear_mono {year year' : Int} (h : year ≤ year') :
    daysBeforeYear year ≤ daysBeforeYear year' := by
  unfold daysBeforeYear
  omega

/-- 400 years have 146097 days. -/
def yearEstimate (n : Int) : Int := 1970 + 400 * n / 146097

/-- The year of a day; the estimate is off by one at most. -/
def yearOf (n : Int) : Int :=
  if n < daysBeforeYear (yearEstimate n) then yearEstimate n - 1
  else if daysBeforeYear (yearEstimate n + 1) ≤ n then yearEstimate n + 1
  else yearEstimate n

/-- The estimate is at most one year off. -/
theorem yearEstimate_spec (n : Int) :
    daysBeforeYear (yearEstimate n - 1) ≤ n ∧ n < daysBeforeYear (yearEstimate n + 1 + 1) := by
  unfold yearEstimate daysBeforeYear
  constructor <;> omega

theorem yearOf_spec (n : Int) :
    daysBeforeYear (yearOf n) ≤ n ∧ n < daysBeforeYear (yearOf n + 1) := by
  obtain ⟨hfrom, hto⟩ := yearEstimate_spec n
  unfold yearOf
  split
  next hbefore => exact ⟨hfrom, by rwa [Int.sub_add_cancel]⟩
  next hbefore =>
    split
    next hafter => exact ⟨hafter, hto⟩
    next hafter => exact ⟨Int.not_lt.mp hbefore, Int.not_le.mp hafter⟩

/-- The years do not overlap. -/
theorem yearOf_eq {n year : Int} (hfrom : daysBeforeYear year ≤ n)
    (hto : n < daysBeforeYear (year + 1)) : yearOf n = year := by
  obtain ⟨hfrom', hto'⟩ := yearOf_spec n
  rcases Int.lt_trichotomy (yearOf n) year with h | h | h
  · have := daysBeforeYear_mono (show yearOf n + 1 ≤ year by omega)
    omega
  · exact h
  · have := daysBeforeYear_mono (show year + 1 ≤ yearOf n by omega)
    omega

/-! ### Dates -/

/-- The month counts from 0, and so does the day. -/
structure Date where
  year : Int
  month : Nat
  day : Int
  day_nonneg : 0 ≤ day
  day_lt : day < (monthLengths year).getD month 0

namespace Date

theorem ext {date date' : Date} (hyear : date.year = date'.year) (hmonth : date.month = date'.month)
    (hday : date.day = date'.day) : date = date' := by
  cases date
  cases date'
  subst hyear hmonth hday
  rfl

theorem month_lt (date : Date) : date.month < 12 := by
  by_contra hmonth
  have hday := date.day_lt
  rw [List.getD_eq_default _ _ (Nat.le_of_not_lt hmonth)] at hday
  have := date.day_nonneg
  omega

/-- The days since the first of January of its year. -/
def dayOfYear (date : Date) : Int := ((monthLengths date.year).take date.month).sum + date.day

/-- The days before a date. -/
def dayNumber (date : Date) : Int := daysBeforeYear date.year + date.dayOfYear

theorem locate_dayOfYear (date : Date) :
    locate (monthLengths date.year) date.dayOfYear = (date.month, date.day) :=
  locate_sum_take _ (monthLengths_nonneg date.year) _ _ date.day_nonneg date.day_lt

theorem dayOfYear_nonneg (date : Date) : 0 ≤ date.dayOfYear :=
  Int.add_nonneg (List.sum_nonneg fun length hmem =>
    monthLengths_nonneg date.year length (List.mem_of_mem_take hmem)) date.day_nonneg

theorem dayOfYear_lt (date : Date) : date.dayOfYear < yearLength date.year := by
  have hmonth : date.month < (monthLengths date.year).length := date.month_lt
  have hday := date.day_lt
  rw [List.getD_eq_getElem _ _ hmonth] at hday
  have hrest : 0 ≤ ((monthLengths date.year).drop (date.month + 1)).sum :=
    List.sum_nonneg fun length hmem =>
      monthLengths_nonneg date.year length (List.mem_of_mem_drop hmem)
  have hsplit := congrArg List.sum (List.take_append_drop (date.month + 1) (monthLengths date.year))
  rw [List.sum_append, List.take_succ_eq_append_getElem hmonth, List.sum_append,
    List.sum_singleton, sum_monthLengths] at hsplit
  unfold dayOfYear
  omega

theorem yearOf_dayNumber (date : Date) : yearOf date.dayNumber = date.year := by
  have hfrom := date.dayOfYear_nonneg
  have hto := date.dayOfYear_lt
  have hnext := daysBeforeYear_succ date.year
  apply yearOf_eq <;> (unfold dayNumber; omega)

/-- The month of day `n` in its year, and the day in the month. -/
def monthOf (n : Int) : Nat × Int := locate (monthLengths (yearOf n)) (n - daysBeforeYear (yearOf n))

theorem monthOf_spec (n : Int) :
    0 ≤ (monthOf n).2 ∧ (monthOf n).2 < (monthLengths (yearOf n)).getD (monthOf n).1 0 ∧
      ((monthLengths (yearOf n)).take (monthOf n).1).sum + (monthOf n).2 =
        n - daysBeforeYear (yearOf n) := by
  obtain ⟨hfrom, hto⟩ := yearOf_spec n
  rw [daysBeforeYear_succ, ← sum_monthLengths] at hto
  exact (locate_spec (monthLengths (yearOf n)) (n - daysBeforeYear (yearOf n)) (by omega)
    (by omega)).2

/-- The date of day `n`. -/
def ofDayNumber (n : Int) : Date where
  year := yearOf n
  month := (monthOf n).1
  day := (monthOf n).2
  day_nonneg := (monthOf_spec n).1
  day_lt := (monthOf_spec n).2.1

theorem dayNumber_ofDayNumber (n : Int) : (ofDayNumber n).dayNumber = n := by
  have hsum := (monthOf_spec n).2.2
  show daysBeforeYear (yearOf n) +
    (((monthLengths (yearOf n)).take (monthOf n).1).sum + (monthOf n).2) = n
  omega

theorem monthOf_dayNumber (date : Date) : monthOf date.dayNumber = (date.month, date.day) := by
  unfold monthOf
  rw [date.yearOf_dayNumber, ← date.locate_dayOfYear]
  exact congrArg (locate _) (add_sub_cancel_left _ _)

theorem ofDayNumber_dayNumber (date : Date) : ofDayNumber date.dayNumber = date := by
  apply ext
  · exact date.yearOf_dayNumber
  · exact congrArg Prod.fst date.monthOf_dayNumber
  · exact congrArg Prod.snd date.monthOf_dayNumber

end Date

end Gregorian
