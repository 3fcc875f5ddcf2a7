import RecordQuery.Number.Integer

/-!
# Calendar dates

Dates of the proleptic Gregorian calendar, in the years from -262143 to 262142.

Results:
* `order_eq_iff`: two dates that compare equal are the same date.
-/

namespace RecordQuery

/-- Whether a year has a leap day. -/
def isLeapYear (year : Int) : Bool :=
  year % 4 == 0 && (year % 100 != 0 || year % 400 == 0)

/-- The number of days in a month; no days for a number that is not a month. -/
def daysInMonth (year : Int) (month : Nat) : Nat :=
  match month with
  | 1 | 3 | 5 | 7 | 8 | 10 | 12 => 31
  | 4 | 6 | 9 | 11 => 30
  | 2 => if isLeapYear year then 29 else 28
  | _ => 0

/-- A date: a year in the supported range, and a day that its month has. -/
structure Date where
  year : Int
  month : Nat
  day : Nat
  year_ge : -262143 ≤ year
  year_le : year ≤ 262142
  day_pos : 1 ≤ day
  day_le : day ≤ daysInMonth year month
  deriving DecidableEq

namespace Date

/-- The date with these parts, if there is one. -/
def make? (year : Int) (month day : Nat) : Option Date :=
  if h : (-262143 ≤ year ∧ year ≤ 262142) ∧ 1 ≤ day ∧ day ≤ daysInMonth year month then
    some ⟨year, month, day, h.1.1, h.1.2, h.2.1, h.2.2⟩
  else none

/-- The order of dates in time. -/
def order (a b : Date) : Ordering :=
  (compare a.year b.year).then ((compare a.month b.month).then (compare a.day b.day))

/-- The day after, unless it is out of range. -/
def next? (d : Date) : Option Date :=
  make? d.year d.month (d.day + 1) <|> make? d.year (d.month + 1) 1 <|> make? (d.year + 1) 1 1

/-- The day before, unless it is out of range. -/
def previous? (d : Date) : Option Date :=
  if d.day = 1 then
    make? d.year (d.month - 1) (daysInMonth d.year (d.month - 1)) <|> make? (d.year - 1) 12 31
  else make? d.year d.month (d.day - 1)

/-! ## Texts -/

/-- A number in decimal with at least `width` digits. -/
def padded (width n : Nat) : List Char :=
  let ds := Digits.ofNat n
  Digits.text (List.replicate (width - ds.length) Digit.zero ++ ds)

/-- A year with at least four digits, and with a sign if it does not have just four. -/
def yearText (year : Int) : List Char :=
  if 0 ≤ year ∧ year ≤ 9999 then padded 4 year.natAbs
  else (if year < 0 then '-' else '+') :: padded 4 year.natAbs

/-- A date as year, month and day with dashes between them. -/
def chars (d : Date) : List Char :=
  yearText d.year ++ '-' :: padded 2 d.month ++ '-' :: padded 2 d.day

/-- A date as year, month and day with dashes between them. -/
def text (d : Date) : String := String.ofList d.chars

theorem order_eq_iff {a b : Date} : a.order b = .eq ↔ a = b := by
  constructor
  · intro h
    simp only [order, Ordering.then_eq_eq, Std.compare_eq_iff_eq] at h
    obtain ⟨hy, hm, hd⟩ := h
    cases a; cases b; simp_all
  · rintro rfl
    simp [order]

end Date

end RecordQuery
