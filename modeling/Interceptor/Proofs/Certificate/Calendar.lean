/-
# Interceptor.Proofs.Certificate.Calendar — every moment of the calendar is understood

A certificate says its moments as dates. Whatever the second, the date that is written is one of
the calendar, and in a form that is understood by whoever takes a certificate apart.

* `Date.isValid_ofDays`: every day has a date; the years with one day more are where they belong
  (`Date.exists_parts`, `Date.year_of_parts`);
* `Moment.exists_encode`: the written form, from thirty days before 1970 to the end of 9999.
-/
import Interceptor.Certificate
import Interceptor.Certificate.Moment

namespace Interceptor.Certificate

set_option autoImplicit false

namespace Date

/-! ## Days of the cycle -/

/-- A day of the cycle of four hundred years, by centuries, by four years each, by years. Only the last of
four years has a day more, and of the last four of a century only where the cycle ends. -/
theorem exists_parts {doe : Nat} (cycle : doe < 146097) :
    ∃ c q y d, c ≤ 3 ∧ q ≤ 24 ∧ y ≤ 3 ∧ d ≤ 365 ∧ doe = 36524 * c + 1461 * q + 365 * y + d ∧
      (d = 365 → y = 3 ∧ (q < 24 ∨ c = 3)) := by
  by_cases last : doe = 146096
  · exact ⟨3, 24, 3, 365, by omega⟩
  · by_cases leap : doe % 36524 % 1461 = 1460
    · exact ⟨doe / 36524, doe % 36524 / 1461, 3, 365, by omega⟩
    · exact ⟨doe / 36524, doe % 36524 / 1461, doe % 36524 % 1461 / 365, doe % 36524 % 1461 % 365, by omega⟩

/-- The year of such a day. -/
theorem year_of_parts {c q y d : Nat} (century : c ≤ 3) (four : q ≤ 24) (year : y ≤ 3) (day : d ≤ 365)
    (leap : d = 365 → y = 3 ∧ (q < 24 ∨ c = 3)) {doe : Nat} (parts : doe = 36524 * c + 1461 * q + 365 * y + d) :
    (doe - doe / 1460 + doe / 36524 - doe / 146096) / 365 = 100 * c + 4 * q + y := by
  -- the days that the quotients take away make every year one of 365 days
  have century' : doe / 36524 - doe / 146096 = c := by
    by_cases last : doe = 146096
    · omega
    · omega
  have fours : doe / 1460 = 25 * c + q ∨ doe / 1460 = 25 * c + q + 1 ∧ 1460 ≤ 24 * c + q + 365 * y + d := by
    omega
  rcases fours with fours | ⟨fours, late⟩
  · omega
  · omega

/-! ## Dates -/

/-- A day of a year that begins with March: its month and its day of the month. -/
def ofYearDay (year : Int) (d : Nat) : Date :=
  let mp := (5 * d + 2) / 153
  let month := if mp < 10 then mp + 3 else mp - 9
  ⟨year + (if month ≤ 2 then 1 else 0), month, d - (153 * mp + 2) / 5 + 1⟩

/-- Every day is a day of a year of the cycle. -/
theorem exists_yearDay (days : Int) : ∃ (era : Int) (c q y d : Nat),
    c ≤ 3 ∧ q ≤ 24 ∧ y ≤ 3 ∧ d ≤ 365 ∧ (d = 365 → y = 3 ∧ (q < 24 ∨ c = 3)) ∧
      days + 719468 = 146097 * era + (36524 * c + 1461 * q + 365 * y + d : Nat) ∧
      ofDays days = ofYearDay (400 * era + (100 * c + 4 * q + y : Nat)) d := by
  have cycle : ((days + 719468) % 146097).toNat < 146097 := by omega
  obtain ⟨c, q, y, d, century, four, year, day, parts, leap⟩ := exists_parts cycle
  refine ⟨(days + 719468) / 146097, c, q, y, d, century, four, year, day, leap, by omega, ?_⟩
  have fours : (100 * c + 4 * q + y) / 4 = 25 * c + q := by omega
  have hundreds : (100 * c + 4 * q + y) / 100 = c := by omega
  have first : 365 * (100 * c + 4 * q + y) + (100 * c + 4 * q + y) / 4 - (100 * c + 4 * q + y) / 100 =
      36524 * c + 1461 * q + 365 * y := by
    rw [fours, hundreds]
    omega
  simp only [ofDays, year_of_parts century four year day leap parts, first]
  rw [parts, Nat.add_sub_cancel_left, ofYearDay]
  congr 2
  omega

theorem isValid_ofYearDay {year : Int} {d : Nat} (day : d ≤ 365) (leap : d = 365 → isLeap (year + 1) = true) :
    (ofYearDay year d).isValid = true := by
  generalize found : (5 * d + 2) / 153 = mp
  simp only [ofYearDay, found, isValid, monthDays]
  have twelve : mp = 0 ∨ mp = 1 ∨ mp = 2 ∨ mp = 3 ∨ mp = 4 ∨ mp = 5 ∨ mp = 6 ∨ mp = 7 ∨ mp = 8 ∨ mp = 9 ∨
      mp = 10 ∨ mp = 11 := by omega
  rcases twelve with rfl | rfl | rfl | rfl | rfl | rfl | rfl | rfl | rfl | rfl | rfl | rfl
  case inr.inr.inr.inr.inr.inr.inr.inr.inr.inr.inr =>
    -- February, which has its last day in leap years
    by_cases last : d = 365
    · simp [leap last]
      omega
    · simp
      split
      · omega
      · omega
  all_goals simp
  all_goals omega

/-- Every day is one of the calendar. -/
theorem isValid_ofDays (days : Int) : (ofDays days).isValid = true := by
  obtain ⟨era, c, q, y, d, century, four, year, day, leap, -, date⟩ := exists_yearDay days
  rw [date]
  refine isValid_ofYearDay day fun last => ?_
  obtain ⟨rfl, rest⟩ := leap last
  simp only [isLeap, Bool.and_eq_true, Bool.or_eq_true, beq_iff_eq, bne_iff_ne]
  omega

/-- From the last of November of 1969 to the end of 9999. -/
theorem year_ofDays {days : Int} (since : -30 ≤ days) (until_ : days ≤ 2932896) :
    1969 ≤ (ofDays days).year ∧ (ofDays days).year ≤ 9999 := by
  obtain ⟨era, c, q, y, d, century, four, year, day, leap, parts, date⟩ := exists_yearDay days
  rw [date]
  simp only [ofYearDay]
  have lower : 4 ≤ era := by omega
  have upper : era ≤ 24 := by omega
  constructor
  · split <;> omega
  · split <;> omega

end Date

namespace Moment

/-! ## Digits -/

/-- One decimal digit. -/
def digit (n : Nat) : UInt8 := UInt8.ofNat (48 + n % 10)

theorem number?_digits (a b : Nat) : number? [digit a, digit b] = some (10 * (a % 10) + b % 10) := by
  have each : ∀ a b : Fin 10, number? [UInt8.ofNat (48 + a), UInt8.ofNat (48 + b)] = some (10 * a.val + b.val) := by
    decide
  exact each ⟨a % 10, Nat.mod_lt _ (by decide)⟩ ⟨b % 10, Nat.mod_lt _ (by decide)⟩

theorem decimal_two (n : Nat) : decimal 2 n = [digit (n / 10), digit n] := rfl

theorem pair?_decimal {n : Nat} (bound : n < 100) (rest : List UInt8) :
    pair? (decimal 2 n ++ rest) = some (n, rest) := by
  have number : 10 * (n / 10 % 10) + n % 10 = n := by omega
  rw [decimal_two, List.cons_append, List.cons_append, List.nil_append, pair?, number?_digits, number]
  rfl

theorem pairOrZero?_decimal {n : Nat} (bound : n < 100) (rest : List UInt8) :
    pairOrZero? (decimal 2 n ++ rest) = some (n, rest) := by
  have long : ¬ (decimal 2 n ++ rest).length < 2 := by
    rw [decimal_two]
    simp
  rw [pairOrZero?, if_neg long, pair?_decimal bound]

theorem decimal_four (n : Nat) : decimal 4 n = decimal 2 (n / 100) ++ decimal 2 (n % 100) := by
  have first : n / 10 / 10 = n / 100 := by omega
  have last : n % 100 % 10 = n % 10 := by omega
  have next : n / 10 % 10 = n % 100 / 10 % 10 := by omega
  show [digit (n / 10 / 10 / 10), digit (n / 10 / 10), digit (n / 10), digit n] =
    [digit (n / 100 / 10), digit (n / 100), digit (n % 100 / 10), digit (n % 100)]
  simp only [digit, first, last, next]

/-! ## Forms -/

/-- What stands behind the year. -/
def behindYear (date : Date) (second : Nat) : List UInt8 :=
  decimal 2 date.month ++ (decimal 2 date.day ++ (decimal 2 (second / 3600) ++
    (decimal 2 (second / 60 % 60) ++ (decimal 2 (second % 60) ++ [90]))))

/-- The time of day is in bounds. -/
theorem inDay_forms {second : Nat} (inDay : second < 86400) {zone : Bool} (ends : zone = true) :
    (true && decide (second / 3600 < 24) && decide (second / 60 % 60 < 60) && decide (second % 60 < 60) && zone) =
      true := by
  have hour : second / 3600 < 24 := by omega
  have minute : second / 60 % 60 < 60 := by omega
  have last : second % 60 < 60 := by omega
  simp [hour, minute, last, ends]

section Forms

variable {date : Date} (valid : date.isValid = true) {second : Nat} (inDay : second < 86400)

include valid

theorem fields_of_isValid : date.month < 100 ∧ date.day < 100 := by
  simp only [Date.isValid, Bool.and_eq_true, decide_eq_true_eq] at valid
  have days : Date.monthDays date.year date.month ≤ 31 := by
    unfold Date.monthDays
    repeat' split
    all_goals decide
  omega

include inDay

theorem isShortForm_written (short : isShort date.year = true) :
    isShortForm (decimal 2 (date.year.toNat % 100) ++ behindYear date second) = true := by
  obtain ⟨month, day⟩ := fields_of_isValid valid
  simp only [isShort, Bool.and_eq_true, decide_eq_true_eq] at short
  have year : date.year.toNat % 100 < 100 := Nat.mod_lt _ (by decide)
  have hour : second / 3600 < 100 := by omega
  have minute : second / 60 % 60 < 100 := by omega
  have last : second % 60 < 100 := by omega
  simp only [isShortForm, behindYear, pair?_decimal year, pair?_decimal month, pair?_decimal day,
    pair?_decimal hour, pair?_decimal minute, pairOrZero?_decimal last, bind, Option.bind, pure, Option.getD]
  have same : (if date.year.toNat % 100 < 50 then 2000 + ((date.year.toNat % 100 : Nat) : Int)
      else 1900 + ((date.year.toNat % 100 : Nat) : Int)) = date.year := by
    split
    · omega
    · omega
  rw [same, valid]
  exact inDay_forms inDay rfl

theorem isLongForm_written (since : 0 ≤ date.year) (until_ : date.year ≤ 9999) :
    isLongForm (decimal 4 date.year.toNat ++ behindYear date second) = true := by
  obtain ⟨month, day⟩ := fields_of_isValid valid
  have century : date.year.toNat / 100 < 100 := by omega
  have year : date.year.toNat % 100 < 100 := Nat.mod_lt _ (by decide)
  have hour : second / 3600 < 100 := by omega
  have minute : second / 60 % 60 < 100 := by omega
  have last : second % 60 < 100 := by omega
  have some : ∀ n rest, (decimal 2 n ++ rest).isEmpty = false := fun n rest => rfl
  rw [decimal_four, List.append_assoc]
  simp only [isLongForm, behindYear, pair?_decimal century, pair?_decimal year, pair?_decimal month,
    pair?_decimal day, pair?_decimal hour, pairOrZero?_decimal minute, pairOrZero?_decimal last, some,
    bind, Option.bind, pure, Option.getD, Bool.false_eq_true, if_false]
  have same : 100 * ((date.year.toNat / 100 : Nat) : Int) + ((date.year.toNat % 100 : Nat) : Int) = date.year := by
    omega
  rw [same, valid]
  exact inDay_forms inDay rfl

end Forms

/-- Every moment of the calendar is written in a form that is understood. -/
theorem exists_encode {moment : Int} (since : -2592000 ≤ moment) (until_ : moment ≤ lastMoment) :
    ∃ tag content, encode moment = Der.value tag content ∧ content.length ≤ 15 ∧
      (tag = Der.tagUtcTime ∧ isShortForm content = true ∨
        tag = Der.tagGeneralizedTime ∧ isLongForm content = true) := by
  have days : -30 ≤ moment / 86400 := by omega
  have days' : moment / 86400 ≤ 2932896 := by
    simp only [lastMoment] at until_
    omega
  obtain ⟨first, last⟩ := Date.year_ofDays days days'
  have valid := Date.isValid_ofDays (moment / 86400)
  have inDay : (moment % 86400).toNat < 86400 := by omega
  have two : ∀ n, (decimal 2 n).length = 2 := fun n => rfl
  have four : ∀ n, (decimal 4 n).length = 4 := fun n => rfl
  simp only [encode, List.append_assoc]
  by_cases short : isShort (Date.ofDays (moment / 86400)).year = true
  · rw [if_pos short]
    refine ⟨_, _, rfl, ?_, .inl ⟨rfl, isShortForm_written valid inDay short⟩⟩
    simp [two]
  · rw [if_neg short]
    refine ⟨_, _, rfl, ?_, .inr ⟨rfl, isLongForm_written valid inDay (by omega) last⟩⟩
    simp [two, four]

end Moment

end Interceptor.Certificate
