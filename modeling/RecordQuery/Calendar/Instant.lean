import RecordQuery.Calendar.Date

/-!
# Instants

Points in time to the nanosecond, in Coordinated Universal Time. A leap second is held as the last
second of its minute with a billion nanoseconds or more.

Results:
* `order_eq_iff`: two instants that compare equal are the same instant.
-/

namespace RecordQuery

/-- A point in time: a date, a second of that day and nanoseconds, of which there are more than a
billion during a leap second only. -/
structure Instant where
  date : Date
  second : Nat
  nano : Nat
  second_lt : second < 86400
  nano_lt : nano < 2000000000
  leap : 1000000000 ≤ nano → second % 60 = 59
  deriving DecidableEq

namespace Instant

/-- The instant with these parts, if there is one. Second 60 of a minute is a leap second. -/
def make? (date : Date) (hour minute second nano : Nat) : Option Instant :=
  let base := hour * 3600 + minute * 60
  if h : hour < 24 ∧ minute < 60 ∧ second < 60 ∧ nano < 1000000000 then
    some ⟨date, base + second, nano, by omega, by omega, by omega⟩
  else if h : hour < 24 ∧ minute < 60 ∧ second = 60 ∧ nano < 1000000000 then
    some ⟨date, base + 59, nano + 1000000000, by omega, by omega, by omega⟩
  else none

/-- The order of instants in time. -/
def order (a b : Instant) : Ordering :=
  (a.date.order b.date).then ((compare a.second b.second).then (compare a.nano b.nano))

/-- The instant that lies `minutes` earlier, for less than a day, unless it is out of range. -/
def minusMinutes? (t : Instant) (minutes : Int) : Option Instant :=
  let shifted := t.second - 60 * minutes
  let second := (shifted % 86400).toNat
  have leap : 1000000000 ≤ t.nano → second % 60 = 59 := fun h => by have := t.leap h; omega
  let on (date : Date) : Instant := ⟨date, second, t.nano, by omega, t.nano_lt, leap⟩
  if shifted < 0 then t.date.previous?.map on
  else if shifted < 86400 then some (on t.date)
  else t.date.next?.map on

/-! ## Texts -/

/-- A fraction of a second, as a point and three, six or nine digits, the fewest that are exact;
nothing for a whole second. -/
def fractionText (nano : Nat) : List Char :=
  if nano = 0 then []
  else if nano % 1000000 = 0 then '.' :: Date.padded 3 (nano / 1000000)
  else if nano % 1000 = 0 then '.' :: Date.padded 6 (nano / 1000)
  else '.' :: Date.padded 9 nano

/-- An instant as date and time of day with a `T` between them, ending in `zone`. -/
def text (t : Instant) (zone : String) : String :=
  let leap := t.nano / 1000000000
  String.ofList (t.date.chars ++ 'T' :: Date.padded 2 (t.second / 3600) ++
    ':' :: Date.padded 2 (t.second / 60 % 60) ++ ':' :: Date.padded 2 (t.second % 60 + leap) ++
    fractionText (t.nano % 1000000000)) ++ zone

theorem order_eq_iff {a b : Instant} : a.order b = .eq ↔ a = b := by
  constructor
  · intro h
    simp only [order, Ordering.then_eq_eq, Std.compare_eq_iff_eq, Date.order_eq_iff] at h
    obtain ⟨hd, hs, hn⟩ := h
    cases a; cases b; simp_all
  · rintro rfl
    simp [order, Date.order_eq_iff]

end Instant

end RecordQuery
