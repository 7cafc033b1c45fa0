/-
Esp32Mod/CalendarRoundTrip.lean

Whether `bmx_esp32_calendar_get` gives back what `bmx_esp32_calendar_start` was given.

`start` checks the fields, and shifts the instant afterwards.  So the instant of a local time can
lie before 1970, where the calendar does not run, or after 9999, and then `start` refuses what
`get` returns.  Within these bounds the two are inverses: `gmtime_r` and `timegm` are (`Reads`
relates the fields to a day and a second of the day, and days are those of `Gregorian`), and so
are `settimeofday` and `gettimeofday`.

Main results:

* `calendar_start_get` — the round trip succeeds just for the instants from 1970 to 9999;
* `calendar_get_utc` — fields that are in UTC come back as they are;
* `calendar_start_outside` — date-times that are accepted, and do not come back.
-/
import Esp32Mod.Calendar
import Esp32Mod.Gregorian

namespace Esp32Mod

open Gregorian

/-! ### `gmtime_r` and `get` -/

/-- The fields of `struct tm` that are read. -/
structure Tm where
  year : Int32
  mon : Int32
  mday : Int32
  hour : Int32
  min : Int32
  sec : Int32

/-- No result if the year does not fit. -/
def gmtimeR (seconds : Int) : Option Tm :=
  let date := Date.ofDayNumber (seconds / 86400)
  let second := seconds % 86400
  if -2 ^ 31 ≤ date.year - 1900 ∧ date.year - 1900 < 2 ^ 31 then
    some {
      year := Int32.ofInt (date.year - 1900)
      mon := Int32.ofInt date.month
      mday := Int32.ofInt (date.day + 1)
      hour := Int32.ofInt (second / 3600)
      min := Int32.ofInt (second / 60 % 60)
      sec := Int32.ofInt (second % 60) }
  else none

example : (gmtimeR 951868799).map (fun tm => (tm.year, tm.mon, tm.mday, tm.hour)) =
    some (100, 1, 29, 23) := by decide

/-- `value` is what the pointer points at; the clock is read twice. -/
def bmxEsp32CalendarGet (s : Calendar) (value : Option CalendarDateTime)
    (gettimeofdayRunning gettimeofday : Bool) : Int32 × Option CalendarDateTime :=
  if value.isNone = true ∨ bmxEsp32CalendarIsRunning s gettimeofdayRunning = false then (0, value)
  else if gettimeofday = false then (0, value)
  else
    match gmtimeR s.now.sec with
    | none => (0, value)
    | some calendar =>
      (1, some {
        year := calendar.year + 1900
        month := calendar.mon + 1
        day := calendar.mday
        hour := calendar.hour
        minute := calendar.min
        second := calendar.sec
        millisecond := Int32.ofInt (s.now.usec / 1000)
        utc := 1
        offset := 0
        dst := 0 })

/-! ### Fields and days -/

/-- The fields show this second of this day. -/
structure Reads (fields : CalendarDateTime) (date : Date) (second : Int) : Prop where
  year : fields.year.toInt = date.year
  month : fields.month.toInt = date.month + 1
  day : fields.day.toInt = date.day + 1
  hour : fields.hour.toInt = second / 3600
  minute : fields.minute.toInt = second / 60 % 60
  second : fields.second.toInt = second % 60

/-- The fields in which `instant` is written in UTC. -/
structure ReadsUtc (fields : CalendarDateTime) (instant : Int) (millisecond : Int32) : Prop where
  reads : Reads fields (Date.ofDayNumber (instant / 86400)) (instant % 86400)
  millisecond : fields.millisecond = millisecond
  utc : fields.utc = 1
  offset : fields.offset = 0
  dst : fields.dst = 0

/-- The instant that the fields denote, in seconds. -/
def CalendarDateTime.instant (fields : CalendarDateTime) : Int :=
  if fields.utc = 0 then
    timegm fields - fields.offset.toInt * 60 - (if fields.dst = 1 then 3600 else 0)
  else timegm fields

/-- The calendar runs on after `start`, `get` succeeds with the same instant in UTC, and `start`
accepts that and sets the clock to where it is. -/
structure RoundTrips (fields : CalendarDateTime) (s : Calendar) : Prop where
  running : bmxEsp32CalendarIsRunning s true = true
  get : ∀ value, ∃ result s', bmxEsp32CalendarGet s (some value) true true = (1, some result) ∧
    ReadsUtc result fields.instant fields.millisecond ∧
    bmxEsp32CalendarStart s (some result) true = (1, s') ∧ s'.clock = s.clock

variable {fields fields' : CalendarDateTime} {date : Date} {second : Int}

/-- The UTC fields of an instant are determined. -/
theorem ReadsUtc.unique {instant : Int} {millisecond : Int32}
    (h : ReadsUtc fields instant millisecond) (h' : ReadsUtc fields' instant millisecond) :
    fields = fields' := by
  have hyear := Int32.toInt_inj.mp (h.reads.year.trans h'.reads.year.symm)
  have hmonth := Int32.toInt_inj.mp (h.reads.month.trans h'.reads.month.symm)
  have hday := Int32.toInt_inj.mp (h.reads.day.trans h'.reads.day.symm)
  have hhour := Int32.toInt_inj.mp (h.reads.hour.trans h'.reads.hour.symm)
  have hminute := Int32.toInt_inj.mp (h.reads.minute.trans h'.reads.minute.symm)
  have hsecond := Int32.toInt_inj.mp (h.reads.second.trans h'.reads.second.symm)
  have hmillisecond := h.millisecond.trans h'.millisecond.symm
  have hutc := h.utc.trans h'.utc.symm
  have hoffset := h.offset.trans h'.offset.symm
  have hdst := h.dst.trans h'.dst.symm
  cases fields
  cases fields'
  subst hyear hmonth hday hhour hminute hsecond hmillisecond hutc hoffset hdst
  rfl

/-! ### The length of a month -/

theorem mod_eq_zero_iff (a : Int32) (b : Int32) : a % b = 0 ↔ a.toInt % b.toInt = 0 := by
  rw [← Int32.toInt_inj, Int32.toInt_mod]
  exact Int.dvd_iff_tmod_eq_zero.symm.trans Int.dvd_iff_emod_eq_zero

theorem leap_iff (year : Int32) :
    (year % 4 = 0 ∧ year % 100 ≠ 0) ∨ year % 400 = 0 ↔ Leap year.toInt := by
  unfold Leap
  rw [Ne, mod_eq_zero_iff, mod_eq_zero_iff, mod_eq_zero_iff]
  rfl

/-- The table with its leap day is the calendar's. -/
theorem daysInMonth_toInt (year : Int32) {m : Nat} (hm : m < 12) :
    (bmxEsp32CalendarDaysInMonth year (Int32.ofNat (m + 1))).toInt =
      (monthLengths year.toInt).getD m 0 := by
  unfold bmxEsp32CalendarDaysInMonth monthLengths
  simp only [leap_iff]
  by_cases hleap : Leap year.toInt
  · simp only [hleap, and_true, if_true]
    revert m
    decide
  · simp only [hleap, and_false, if_false]
    revert m
    decide

theorem ofNat_of_toInt {a : Int32} {n : Nat} (h : a.toInt = n) : a = Int32.ofNat n := by
  have hlt := a.toInt_lt
  rw [← Int32.toInt_inj, Int32.toInt_ofNat_of_lt (by omega), h]

theorem daysBeforeMonth_eq (year : Int32) {month : Int32} {m : Nat} (hm : m < 12)
    (hmonth : month.toInt = m + 1) :
    daysBeforeMonth year month = ((monthLengths year.toInt).take m).sum := by
  unfold daysBeforeMonth
  have hcount : month.toInt.toNat - 1 = m := by omega
  rw [hcount]
  congr 1
  apply List.ext_getElem
  · rw [List.length_map, List.length_range, List.length_take]
    exact (Nat.min_eq_left (Nat.le_of_lt hm)).symm
  · intro k hk hk'
    rw [List.length_map, List.length_range] at hk
    have hk12 : k < (monthLengths year.toInt).length := Nat.lt_trans hk hm
    rw [List.getElem_map, List.getElem_range, List.getElem_take,
      daysInMonth_toInt year (Nat.lt_trans hk hm), List.getD_eq_getElem _ _ hk12]

/-! ### `timegm` and the check -/

/-- **`timegm` is the number of the day and the second in it.** -/
theorem Reads.timegm_eq (h : Reads fields date second) :
    timegm fields = date.dayNumber * 86400 + second := by
  have hyear : Esp32Mod.daysBeforeYear fields.year.toInt = Gregorian.daysBeforeYear date.year :=
    congrArg Gregorian.daysBeforeYear h.year
  have hmonth := daysBeforeMonth_eq fields.year date.month_lt h.month
  rw [h.year] at hmonth
  unfold timegm Date.dayNumber Date.dayOfYear
  dsimp only
  rw [hyear, hmonth, h.day, h.hour, h.minute, h.second]
  omega

/-- Of fields that show a second of a day, the check looks at the year only. -/
theorem Reads.valid_iff (h : Reads fields date second) (hfrom : 0 ≤ second)
    (hto : second < 86400) (hmillisecond : 0 ≤ fields.millisecond ∧ fields.millisecond ≤ 999) :
    bmxEsp32CalendarValid (some fields) = true ↔ 1970 ≤ date.year ∧ date.year ≤ 9999 := by
  have hmonth : fields.month = Int32.ofNat (date.month + 1) := ofNat_of_toInt h.month
  have hdays := daysInMonth_toInt fields.year date.month_lt
  rw [← hmonth, h.year] at hdays
  have := date.day_nonneg
  have := date.day_lt
  have := date.month_lt
  obtain ⟨hyear, hmonth, hday, hhour, hminute, hsecond⟩ := h
  simp only [bmxEsp32CalendarValid, decide_eq_true_eq, ge_iff_le, hmillisecond, and_true,
    Int32.le_iff_toInt_le, hyear, hmonth, hday, hhour, hminute, hsecond, hdays]
  simp only [Int32.reduceToInt]
  omega

/-- What passes the check is a second of a day. -/
theorem valid_reads (h : bmxEsp32CalendarValid (some fields) = true) :
    ∃ date second, Reads fields date second ∧ 0 ≤ second ∧ second < 86400 ∧
      1970 ≤ date.year ∧ date.year ≤ 9999 ∧
      0 ≤ fields.millisecond.toInt ∧ fields.millisecond.toInt ≤ 999 := by
  simp only [bmxEsp32CalendarValid, decide_eq_true_eq, ge_iff_le, Int32.le_iff_toInt_le] at h
  obtain ⟨hyear, hyear', hmonth, hmonth', hday, hday', hhour, hhour', hminute, hminute', hsecond,
    hsecond', hmillisecond, hmillisecond'⟩ := h
  simp only [Int32.reduceToInt] at *
  have hm : fields.month.toInt.toNat - 1 < 12 := by omega
  have hmonthEq : fields.month.toInt = ((fields.month.toInt.toNat - 1 : Nat) : Int) + 1 := by omega
  rw [ofNat_of_toInt hmonthEq, daysInMonth_toInt fields.year hm] at hday'
  refine ⟨⟨fields.year.toInt, fields.month.toInt.toNat - 1, fields.day.toInt - 1, by omega,
    by omega⟩, (fields.hour.toInt * 60 + fields.minute.toInt) * 60 + fields.second.toInt,
    ⟨rfl, hmonthEq, (Int.sub_add_cancel _ _).symm, ?_, ?_, ?_⟩, ?_, ?_, hyear, hyear',
    hmillisecond, hmillisecond'⟩
  all_goals omega

/-- The instants from 1970 to 9999. -/
def Representable (instant : Int) : Prop := 0 ≤ instant ∧ instant < 253402300800

/-- What passes the check is representable where it stands. -/
theorem timegm_representable (h : bmxEsp32CalendarValid (some fields) = true) :
    Representable (timegm fields) := by
  obtain ⟨date, second, hreads, hfrom, hto, hyear, hyear', -, -⟩ := valid_reads h
  have hday := date.dayOfYear_nonneg
  have hday' := date.dayOfYear_lt
  have hnext := daysBeforeYear_succ date.year
  have hfirst : 0 ≤ Gregorian.daysBeforeYear date.year := daysBeforeYear_mono hyear
  have hlast : Gregorian.daysBeforeYear (date.year + 1) ≤ 2932897 :=
    daysBeforeYear_mono (show date.year + 1 ≤ 10000 by omega)
  unfold Representable
  rw [hreads.timegm_eq]
  unfold Date.dayNumber
  omega

/-- The year of a representable instant is one that the check accepts. -/
theorem Representable.year {instant : Int} (h : Representable instant) :
    1970 ≤ (Date.ofDayNumber (instant / 86400)).year ∧
      (Date.ofDayNumber (instant / 86400)).year ≤ 9999 := by
  obtain ⟨hfrom, hto⟩ := h
  obtain ⟨hday, hday'⟩ := yearOf_spec (instant / 86400)
  show 1970 ≤ yearOf (instant / 86400) ∧ yearOf (instant / 86400) ≤ 9999
  constructor
  · by_contra hyear
    have hlt : yearOf (instant / 86400) + 1 ≤ 1970 := by omega
    have hzero : Gregorian.daysBeforeYear (yearOf (instant / 86400) + 1) ≤ 0 :=
      daysBeforeYear_mono hlt
    omega
  · by_contra hyear
    have hle : 10000 ≤ yearOf (instant / 86400) := by omega
    have hlast : 2932897 ≤ Gregorian.daysBeforeYear (yearOf (instant / 86400)) :=
      daysBeforeYear_mono hle
    omega

/-! ### `start` -/

theorem toTimeval_valid (h : bmxEsp32CalendarValid (some fields) = true) :
    bmxEsp32CalendarToTimeval (some fields) =
      some ⟨fields.instant, fields.millisecond.toInt * 1000⟩ := by
  obtain ⟨-, -, -, -, -, -, -, hmillisecond, hmillisecond'⟩ := valid_reads h
  have hnonneg := (timegm_representable h).1
  have husec : (fields.millisecond * 1000).toInt = fields.millisecond.toInt * 1000 := by
    rw [Int32.toInt_mul]
    exact Int.bmod_eq_of_le (by simp only [Int32.reduceToInt]; omega)
      (by simp only [Int32.reduceToInt]; omega)
  unfold bmxEsp32CalendarToTimeval CalendarDateTime.instant
  simp only [h, Bool.true_eq_false, if_false, husec]
  rw [if_neg (by omega)]
  split
  · split
    · rfl
    · rw [Int.sub_zero]
  · rfl

/-- `start` accepts what passes the check, and nothing else. -/
theorem start_accepts_iff (s : Calendar) (value : Option CalendarDateTime) :
    (bmxEsp32CalendarStart s value true).1 = 1 ↔ bmxEsp32CalendarValid value = true := by
  cases value with
  | none => exact iff_of_false (show ¬ (0 : Int32) = 1 by decide) Bool.false_ne_true
  | some fields =>
    cases h : bmxEsp32CalendarValid (some fields) with
    | false =>
      apply iff_of_false
      · simp [bmxEsp32CalendarStart, bmxEsp32CalendarToTimeval, h]
      · exact Bool.false_ne_true
    | true =>
      apply iff_of_true
      · simp [bmxEsp32CalendarStart, toTimeval_valid h]
      · rfl

theorem start_valid (s : Calendar) (h : bmxEsp32CalendarValid (some fields) = true) :
    bmxEsp32CalendarStart s (some fields) true =
      (1, { s with
        clock := fields.instant * 1000000 + fields.millisecond.toInt * 1000
        state := { s.state with stopped := false } }) := by
  unfold bmxEsp32CalendarStart
  rw [toTimeval_valid h]
  rfl

/-! ### `get` -/

theorem toInt_ofInt_small {n : Int} (hfrom : 0 ≤ n) (hto : n ≤ 9999) :
    (Int32.ofInt n).toInt = n :=
  Int32.toInt_ofInt_of_le (by omega) (by omega)

theorem ofInt_add (n k : Int) : Int32.ofInt n + Int32.ofInt k = Int32.ofInt (n + k) :=
  (Int32.ofInt_add n k).symm

theorem monthLength_le (year : Int) (month : Nat) : (monthLengths year).getD month 0 ≤ 31 := by
  by_cases hmonth : month < 12
  · unfold monthLengths
    split <;>
    · revert month
      decide
  · rw [List.getD_eq_default _ _ (Nat.le_of_not_lt hmonth)]
    decide

/-- The fields that `get` makes of an accepted year and a time of day. -/
theorem reads_ofInt {date : Date} {second : Int} (hfrom : 0 ≤ second) (hto : second < 86400)
    (hyear : 1970 ≤ date.year ∧ date.year ≤ 9999) (millisecond utc offset dst : Int32) :
    Reads ⟨Int32.ofInt (date.year - 1900) + 1900, Int32.ofInt date.month + 1,
      Int32.ofInt (date.day + 1), Int32.ofInt (second / 3600), Int32.ofInt (second / 60 % 60),
      Int32.ofInt (second % 60), millisecond, utc, offset, dst⟩ date second := by
  have hmonth := date.month_lt
  have hday := date.day_nonneg
  have hday' := Int.lt_of_lt_of_le date.day_lt (monthLength_le date.year date.month)
  refine ⟨?_, ?_, toInt_ofInt_small ?_ ?_, toInt_ofInt_small ?_ ?_, toInt_ofInt_small ?_ ?_,
    toInt_ofInt_small ?_ ?_⟩
  · show (Int32.ofInt (date.year - 1900) + Int32.ofInt 1900).toInt = date.year
    rw [ofInt_add, Int.sub_add_cancel]
    exact toInt_ofInt_small (by omega) (by omega)
  · show (Int32.ofInt date.month + Int32.ofInt 1).toInt = date.month + 1
    rw [ofInt_add]
    exact toInt_ofInt_small (by omega) (by omega)
  all_goals omega

theorem isRunning_iff (s : Calendar) :
    bmxEsp32CalendarIsRunning s true = true ↔ s.state.stopped = false ∧ 0 ≤ s.now.sec := by
  unfold bmxEsp32CalendarIsRunning
  cases s.state.stopped <;> simp

/-- While the calendar runs and the year is one with four digits, `get` gives the fields of the
clock in UTC. -/
theorem get_running {s : Calendar} {instant : Int} {millisecond : Int32}
    (hclock : s.clock = instant * 1000000 + millisecond.toInt * 1000)
    (hmillisecond : 0 ≤ millisecond.toInt ∧ millisecond.toInt ≤ 999)
    (hrunning : bmxEsp32CalendarIsRunning s true = true) (h : Representable instant)
    (value : CalendarDateTime) :
    ∃ result, bmxEsp32CalendarGet s (some value) true true = (1, some result) ∧
      ReadsUtc result instant millisecond := by
  have hsec : s.now.sec = instant := by
    show s.clock / 1000000 = instant
    omega
  have husec : s.now.usec / 1000 = millisecond.toInt := by
    show s.clock % 1000000 / 1000 = _
    omega
  have hyear := h.year
  unfold bmxEsp32CalendarGet gmtimeR
  simp only [hrunning, hsec, husec, Option.isNone_some, Bool.true_eq_false, Bool.false_eq_true,
    or_self, if_false]
  rw [if_pos (by omega)]
  refine ⟨_, rfl, reads_ofInt (by omega) (by omega) hyear _ _ _ _, ?_, rfl, rfl, rfl⟩
  exact Int32.ofInt_toInt millisecond

/-! ### The round trip -/

theorem RoundTrips.representable {s : Calendar} (h : RoundTrips fields s) :
    Representable fields.instant := by
  obtain ⟨result, s', -, hutc, hstart, -⟩ := h.get fields
  have hvalid := (start_accepts_iff s (some result)).mp (congrArg Prod.fst hstart)
  have hrepresentable := timegm_representable hvalid
  rw [hutc.reads.timegm_eq, Date.dayNumber_ofDayNumber, Int.ediv_mul_add_emod] at hrepresentable
  exact hrepresentable

/-- **The round trip.**  `start` accepts the fields; the calendar then runs, and `get` gives back
the instant that they denote, in a form that `start` accepts, if and only if that instant lies
between the beginning of 1970 and the end of 9999 in UTC. -/
theorem calendar_start_get (s : Calendar) (fields : CalendarDateTime)
    (hvalid : bmxEsp32CalendarValid (some fields) = true) :
    (bmxEsp32CalendarStart s (some fields) true).1 = 1 ∧
      (RoundTrips fields (bmxEsp32CalendarStart s (some fields) true).2 ↔
        Representable fields.instant) := by
  refine ⟨(start_accepts_iff s _).mpr hvalid, RoundTrips.representable, ?_⟩
  intro hinstant
  obtain ⟨-, -, -, -, -, -, -, hmillisecond⟩ := valid_reads hvalid
  rw [start_valid s hvalid]
  have hnow : ∀ state, (Calendar.now { s with
      clock := fields.instant * 1000000 + fields.millisecond.toInt * 1000
      state := state }).sec = fields.instant := by
    intro state
    show (fields.instant * 1000000 + fields.millisecond.toInt * 1000) / 1000000 = _
    omega
  have hrunning := (isRunning_iff _).mpr
    ⟨rfl, (hnow { s.state with stopped := false }).symm ▸ hinstant.1⟩
  refine ⟨hrunning, fun value => ?_⟩
  obtain ⟨result, hget, hutc⟩ := get_running rfl hmillisecond hrunning hinstant value
  have hresult : bmxEsp32CalendarValid (some result) = true :=
    (hutc.reads.valid_iff (by omega) (by omega) (by
      rw [hutc.millisecond, Int32.le_iff_toInt_le, Int32.le_iff_toInt_le]
      exact hmillisecond)).mpr hinstant.year
  have hsame : result.instant = fields.instant := by
    show (if result.utc = 0 then _ else timegm result) = _
    rw [hutc.utc, hutc.reads.timegm_eq, Date.dayNumber_ofDayNumber, Int.ediv_mul_add_emod]
    rfl
  refine ⟨result, _, hget, hutc, start_valid _ hresult, ?_⟩
  dsimp only
  rw [hsame, hutc.millisecond]

/-- **Fields in UTC come back as they are**, whatever the pointer pointed at. -/
theorem calendar_get_utc (s : Calendar) (hvalid : bmxEsp32CalendarValid (some fields) = true)
    (hutc : fields.utc = 1) (hoffset : fields.offset = 0) (hdst : fields.dst = 0)
    (value : CalendarDateTime) :
    bmxEsp32CalendarGet (bmxEsp32CalendarStart s (some fields) true).2 (some value) true true =
      (1, some fields) := by
  obtain ⟨date, second, hreads, hfrom, hto, -⟩ := valid_reads hvalid
  have hinstant : fields.instant = timegm fields := if_neg (by rw [hutc]; decide)
  -- the day of the instant is that of the fields, so they are what `get` has to give
  have hday : Date.ofDayNumber (fields.instant / 86400) = date := by
    rw [hinstant, hreads.timegm_eq, show (date.dayNumber * 86400 + second) / 86400 = date.dayNumber
      by omega, Date.ofDayNumber_dayNumber]
  have hsecond : fields.instant % 86400 = second := by
    rw [hinstant, hreads.timegm_eq]
    omega
  have hgiven : ReadsUtc fields fields.instant fields.millisecond :=
    ⟨by rwa [hday, hsecond], rfl, hutc, hoffset, hdst⟩
  have htrips := ((calendar_start_get s fields hvalid).2.mpr
    (hinstant ▸ timegm_representable hvalid)).get value
  obtain ⟨result, s', hget, hresult, -⟩ := htrips
  rw [hget, hresult.unique hgiven]

/-- In the last hour of a leap day, one hour west of Greenwich. -/
def leapDayWest : CalendarDateTime := ⟨2000, 2, 29, 23, 30, 0, 250, 0, -60, 0⟩

theorem calendar_start_get_leapDay :
    (bmxEsp32CalendarStart (Calendar.boot 0 0) (some leapDayWest) true).1 = 1 ∧
      (RoundTrips leapDayWest
          (bmxEsp32CalendarStart (Calendar.boot 0 0) (some leapDayWest) true).2 ↔
        Representable leapDayWest.instant) :=
  calendar_start_get (Calendar.boot 0 0) leapDayWest (by decide)

/-- The first hour of 1970 one hour east of Greenwich. -/
def firstHourEast : CalendarDateTime := ⟨1970, 1, 1, 0, 0, 0, 0, 0, 60, 0⟩

/-- The last hour of 9999 one hour west of Greenwich. -/
def lastHourWest : CalendarDateTime := ⟨9999, 12, 31, 23, 0, 0, 0, 0, -60, 0⟩

/-- `start` accepts both.  After the first the calendar does not run; after the second `get`
returns a year that `start` refuses. -/
theorem calendar_start_outside :
    (∃ s, bmxEsp32CalendarStart (Calendar.boot 0 0) (some firstHourEast) true = (1, s) ∧
      bmxEsp32CalendarIsRunning s true = false ∧ ¬ RoundTrips firstHourEast s) ∧
    ∃ s, bmxEsp32CalendarStart (Calendar.boot 0 0) (some lastHourWest) true = (1, s) ∧
      bmxEsp32CalendarIsRunning s true = true ∧ ¬ RoundTrips lastHourWest s := by
  have hfirst : ¬ Representable firstHourEast.instant :=
    fun h => absurd h.1 (by decide)
  have hlast : ¬ Representable lastHourWest.instant :=
    fun h => absurd h.2 (by decide)
  exact ⟨⟨_, start_valid _ (by decide), by decide, fun h => hfirst h.representable⟩,
    ⟨_, start_valid _ (by decide), by decide, fun h => hlast h.representable⟩⟩

end Esp32Mod
