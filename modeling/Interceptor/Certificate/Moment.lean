/-
# Interceptor.Certificate.Moment — moments on a certificate

A moment is a number of seconds since the start of 1970. A certificate says it
as a date and a time of day: with two digits for the year from 1950 to 2049,
with four for any other.

`Date.ofDays` and `Date.toDays` count days through the calendar's cycle of four
hundred years, in which years begin with March so that the leap day comes last.
-/
import Interceptor.Certificate.Der

namespace Interceptor.Certificate

set_option autoImplicit false

/-- A day of the calendar. -/
structure Date where
  year : Int
  month : Nat
  day : Nat
  deriving DecidableEq, Repr

namespace Date

/-- The date some days after the first day of 1970. -/
def ofDays (days : Int) : Date :=
  let z := days + 719468
  let era := z / 146097
  let doe := (z % 146097).toNat
  let yoe := (doe - doe / 1460 + doe / 36524 - doe / 146096) / 365
  let doy := doe - (365 * yoe + yoe / 4 - yoe / 100)
  let mp := (5 * doy + 2) / 153
  let month := if mp < 10 then mp + 3 else mp - 9
  ⟨(yoe : Int) + era * 400 + (if month ≤ 2 then 1 else 0), month, doy - (153 * mp + 2) / 5 + 1⟩

/-- The days from the first day of 1970 to a date. -/
def toDays (date : Date) : Int :=
  let y := if date.month ≤ 2 then date.year - 1 else date.year
  let era := y / 400
  let yoe := (y % 400).toNat
  let mp := if date.month > 2 then date.month - 3 else date.month + 9
  let doy := (153 * mp + 2) / 5 + date.day - 1
  let doe := yoe * 365 + yoe / 4 - yoe / 100 + doy
  era * 146097 + (doe : Int) - 719468

def isLeap (year : Int) : Bool := year % 4 == 0 && (year % 100 != 0 || year % 400 == 0)

/-- The length of a month. -/
def monthDays (year : Int) (month : Nat) : Nat :=
  if month = 2 then if isLeap year then 29 else 28
  else if month ∈ [4, 6, 9, 11] then 30
  else 31

def isValid (date : Date) : Bool :=
  1 ≤ date.month && date.month ≤ 12 && 1 ≤ date.day && date.day ≤ monthDays date.year date.month

end Date

namespace Moment

/-- A number as exactly `count` decimal digits. -/
def decimal : Nat → Nat → List UInt8
  | 0, _ => []
  | count + 1, n => decimal count (n / 10) ++ [UInt8.ofNat (48 + n % 10)]

/-- The number that decimal digits write. -/
def number? (digits : List UInt8) : Option Nat :=
  digits.foldlM (fun n d => if 48 ≤ d ∧ d ≤ 57 then some (n * 10 + (d.toNat - 48)) else none) 0

/-- Whether two digits are enough for a year. -/
def isShort (year : Int) : Bool := 1950 ≤ year && year < 2050

/-- The moment as a value of a certificate. -/
def encode (moment : Int) : List UInt8 :=
  let date := Date.ofDays (moment / 86400)
  let second := (moment % 86400).toNat
  let year := date.year.toNat
  let rest := decimal 2 date.month ++ decimal 2 date.day ++ decimal 2 (second / 3600)
    ++ decimal 2 (second / 60 % 60) ++ decimal 2 (second % 60) ++ [90]
  if isShort date.year then Der.value Der.tagUtcTime (decimal 2 (year % 100) ++ rest)
  else Der.value Der.tagGeneralizedTime (decimal 4 year ++ rest)

/-- Reads what follows the year: ten digits and a `Z`. -/
def ofParts? (year : Nat) (rest : List UInt8) : Option Int := do
  let month ← number? (rest.take 2)
  let day ← number? ((rest.drop 2).take 2)
  let hour ← number? ((rest.drop 4).take 2)
  let minute ← number? ((rest.drop 6).take 2)
  let second ← number? ((rest.drop 8).take 2)
  let date : Date := ⟨year, month, day⟩
  if rest.length = 11 ∧ rest.getLast? = some 90 ∧ date.isValid = true
      ∧ hour < 24 ∧ minute < 60 ∧ second < 60 then
    some (date.toDays * 86400 + (hour * 3600 + minute * 60 + second : Nat))
  else none

/-- Reads a value that `encode` writes. -/
def decode? (tag : UInt8) (content : List UInt8) : Option Int :=
  if tag = Der.tagUtcTime then do
    let year ← number? (content.take 2)
    ofParts? (if year < 50 then 2000 + year else 1900 + year) (content.drop 2)
  else if tag = Der.tagGeneralizedTime then do
    ofParts? (← number? (content.take 4)) (content.drop 4)
  else none

/-! ## Forms that are understood

Others write moments in more forms: without seconds or minutes, with parts of a
second, and with the distance from universal time in place of `Z`.
-/

/-- The number that two decimal digits write. -/
def pair? : List UInt8 → Option (Nat × List UInt8)
  | a :: b :: rest => (number? [a, b]).map (·, rest)
  | _ => none

/-- The number that two decimal digits write, or zero where fewer than two characters are left. -/
def pairOrZero? (text : List UInt8) : Option (Nat × List UInt8) :=
  if text.length < 2 then some (0, text) else pair? text

/-- Whether a text is a `Z`, or a sign with hours and minutes. -/
def isZone : List UInt8 → Bool
  | [90] => true
  | sign :: rest =>
    (sign = 43 || sign = 45) && rest.length = 4 &&
      (number? (rest.take 2)).any (· ≤ 25) && (number? (rest.drop 2)).any (· < 60)
  | [] => false

/-- Whether a text is the short form: two digits for the year, and no parts of a second. -/
def isShortForm (text : List UInt8) : Bool :=
  ((do
    let (year, text) ← pair? text
    let (month, text) ← pair? text
    let (day, text) ← pair? text
    let (hour, text) ← pair? text
    let (minute, text) ← pair? text
    let (second, zone) ← pairOrZero? text
    let date : Date := ⟨if year < 50 then 2000 + year else 1900 + year, month, day⟩
    return date.isValid && hour < 24 && minute < 60 && second < 60 && isZone zone) : Option Bool).getD false

/-- Whether a text is nothing or a zone, behind a point or a comma and at most three digits if there
is one. -/
def isFractionAndZone : List UInt8 → Bool
  | [] => true
  | c :: rest =>
    if c = 46 || c = 44 then
      let digits := rest.takeWhile fun d => 48 ≤ d ∧ d ≤ 57
      let zone := rest.drop digits.length
      1 ≤ digits.length && (digits.length ≤ 3 || digits.length = 4 && digits.head? = some 48 && zone.isEmpty) &&
        (zone.isEmpty || isZone zone)
    else isZone (c :: rest)

/-- Whether a text is the long form: four digits for the year. -/
def isLongForm (text : List UInt8) : Bool :=
  ((do
    let (century, text) ← pair? text
    let (year, text) ← pair? text
    let (month, text) ← pair? text
    let (day, text) ← pair? text
    let (hour, text) ← pair? text
    if text.isEmpty then none
    let (minute, text) ← pairOrZero? text
    if text.isEmpty then none
    let (second, text) ← pairOrZero? text
    let date : Date := ⟨100 * century + year, month, day⟩
    return date.isValid && hour < 24 && minute < 60 && second < 60 && isFractionAndZone text) : Option Bool).getD
      false

end Moment

end Interceptor.Certificate
