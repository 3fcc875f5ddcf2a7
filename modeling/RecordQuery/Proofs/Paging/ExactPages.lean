import Mathlib.Data.Rat.Floor
import RecordQuery.Proofs.Paging.Checked

/-!
# Pages in the integers

The number of pages is the quotient of the rows by the page size, rounded up. The window of a page
and the information about it are worked out apart from each other, in words of two kinds, and both
agree with this number: up to the greatest words, no step of either leaves its word. A window covers
the rows between its two ends that there are.

Results:
* `natCast_ceilDiv`: division rounded up is the ceiling of the quotient.
* `PageInfo.exists_calculate_eq_error_iff`: when there is no information about a page.
* `PageRequest.exact_of_pos`: a page as the integers have it.
* `Window.covers_range`: the rows that a window covers.
* `pages_exact`: the arithmetic of pages as a whole.
-/

namespace RecordQuery

/-! ## The number of pages -/

/-- How many pages of a size it takes to hold so many rows: the quotient, rounded up. -/
def pagesOf (total size : ℤ) : ℤ := ⌈(total : ℚ) / size⌉

theorem natCast_ceilDiv (n : ℕ) {s : ℕ} (h : 0 < s) : ((n ⌈/⌉ s : ℕ) : ℤ) = pagesOf n s := by
  have hs : (0 : ℚ) < s := Nat.cast_pos.mpr h
  unfold pagesOf
  push_cast
  apply le_antisymm
  · rw [Int.le_ceil_iff, lt_div_iff₀ hs]
    by_cases hzero : n ⌈/⌉ s = 0
    · rw [hzero]
      have hn : (0 : ℚ) ≤ n := Nat.cast_nonneg n
      push_cast
      linarith
    · -- the page before the last starts below the last row
      have hlt : (n ⌈/⌉ s - 1) * s < n := mul_lt_of_lt_ceilDiv h (by omega)
      have hcast : ((n ⌈/⌉ s - 1 : ℕ) : ℚ) = ((n ⌈/⌉ s : ℕ) : ℤ) - 1 := by
        rw [Nat.cast_sub (by omega)]
        push_cast
        rfl
      rw [← hcast]
      exact_mod_cast hlt
  · rw [Int.ceil_le, div_le_iff₀ hs]
    exact_mod_cast le_ceilDiv_mul h

/-! ## Information about a page -/

/-- There is no information about a page exactly if the rows cannot be counted, or the page has no
room for a row. -/
theorem PageInfo.exists_calculate_eq_error_iff {total size requested : Int64} :
    (∃ cause, calculate total size requested = .error cause) ↔ total < 0 ∨ size ≤ 0 := by
  rw [← not_iff_not, not_or, Int64.not_lt, Int64.not_le]
  constructor
  · intro h
    cases hresult : calculate total size requested with
    | error cause => exact absurd ⟨cause, hresult⟩ h
    | ok info =>
      obtain ⟨ht, hs, -⟩ := calculate_eq_ok_iff.mp hresult
      exact ⟨ht, hs⟩
  · rintro ⟨ht, hs⟩ ⟨cause, hcause⟩
    rw [calculate_eq_ok_iff.mpr ⟨ht, hs, rfl⟩] at hcause
    cases hcause

/-! ## A page of so many rows -/

/-- What is worked out about a page, out of so many rows, is what the integers say, and no step on
the way leaves its word. -/
structure PageRequest.Exact (r : PageRequest) (total : Int64) : Prop where
  /-- The page told about is counted from zero, and is one of the pages if there is one. -/
  info : ∃ info, PageInfo.calculate total r.rows r.page = .ok info ∧
    PageInfo.checked? total r.rows r.page = some info ∧
    info.pageSize = r.rows ∧ info.totalCount = total ∧
    info.totalPages.toInt = pagesOf total.toInt r.rows.toInt ∧
    info.currentPage.toInt =
      min r.page.toInt (max (pagesOf total.toInt r.rows.toInt - 1) 0)
  noOverflow : r.checkedWindow? total.toUInt64 = some (r.window total.toUInt64)
  limit : ((r.window total.toUInt64).limit.toNat : ℤ) = r.rows.toInt
  /-- The window starts at the page asked for, or at the last one. -/
  offset : ((r.window total.toUInt64).offset.toNat : ℤ) =
    if pagesOf total.toInt r.rows.toInt = 0 then 0
    else (min r.page.toInt (pagesOf total.toInt r.rows.toInt) - 1) * r.rows.toInt
  offset_lt : 0 < total → ((r.window total.toUInt64).offset.toNat : ℤ) < total.toInt

section Page

variable {r : PageRequest} {total : Int64}

theorem pagesOf_toInt (ht : 0 ≤ total) (hr : 0 < r.rows) :
    pagesOf total.toInt r.rows.toInt = (total.toNatClampNeg ⌈/⌉ r.rows.toNatClampNeg : ℕ) := by
  rw [Word.toInt_eq_natCast ht, Word.toInt_eq_natCast (Int64.le_of_lt hr),
    natCast_ceilDiv _ (Word.toNatClampNeg_pos hr)]

/-- The page told about, when one is asked for that is counted from one. -/
theorem PageInfo.toInt_current {pages requested : Int64} (hpages : 0 ≤ pages.toInt)
    (hrequested : 1 ≤ requested.toInt) :
    (current pages requested).toInt = min requested.toInt (max (pages.toInt - 1) 0) := by
  rw [toInt_currentPage hpages]
  split <;> omega

theorem PageRequest.exact_of_pos (ht : 0 ≤ total) (hr : 0 < r.rows) (hp : 0 < r.page) :
    r.Exact total := by
  have hnat : total.toUInt64.toNat = total.toNatClampNeg := Int64.toNat_toUInt64_of_le ht
  have hsize : 0 < r.rows.toNatClampNeg := Word.toNatClampNeg_pos hr
  have htotal : total.toInt = total.toNatClampNeg := Word.toInt_eq_natCast ht
  have hrows : r.rows.toInt = r.rows.toNatClampNeg := Word.toInt_eq_natCast (Int64.le_of_lt hr)
  have hpage : r.page.toInt = r.page.toNatClampNeg := Word.toInt_eq_natCast (Int64.le_of_lt hp)
  have hpages := pagesOf_toInt ht hr
  have hoffset : (r.window total.toUInt64).offset.toNat =
      (min r.page.toNatClampNeg (total.toUInt64.toNat ⌈/⌉ r.rows.toNatClampNeg) - 1) *
        r.rows.toNatClampNeg := toNat_offset_window hr hp
  rw [hnat] at hoffset
  have hfirst : 0 < r.page.toNatClampNeg := Word.toNatClampNeg_pos hp
  refine ⟨?_, checkedWindow?_eq r _, ?_, ?_, ?_⟩
  · have hcalculate : PageInfo.calculate total r.rows r.page =
        .ok ⟨PageInfo.current (PageInfo.pages total r.rows) r.page, r.rows, total,
          PageInfo.pages total r.rows⟩ := PageInfo.calculate_eq_ok_iff.mpr ⟨ht, hr, rfl⟩
    have hcount := PageInfo.toInt_totalPages ht hr
    refine ⟨_, hcalculate, ?_, rfl, rfl, hcount.trans hpages.symm, ?_⟩
    · rw [PageInfo.checked?_eq, hcalculate]
      rfl
    · rw [hpages, ← hcount]
      apply PageInfo.toInt_current
      · rw [hcount]
        exact Int.natCast_nonneg _
      · omega
  · rw [toNat_limit_window hr, hrows]
  · rw [hoffset, hpages, hrows, hpage]
    split
    · next hzero => rw [Int.natCast_eq_zero.mp hzero, Nat.min_zero, Nat.zero_sub, Nat.zero_mul]; rfl
    · next hne =>
      have hpos : 1 ≤ min r.page.toNatClampNeg (total.toNatClampNeg ⌈/⌉ r.rows.toNatClampNeg) := by
        omega
      rw [Nat.cast_mul, Nat.cast_sub hpos, Nat.cast_min]
      rfl
  · intro hpos
    have hcount : 0 < total.toNatClampNeg := Word.toNatClampNeg_pos hpos
    have hholds : total.toNatClampNeg ≤ _ := le_ceilDiv_mul hsize
    have hsome : 0 < total.toNatClampNeg ⌈/⌉ r.rows.toNatClampNeg := by
      apply Nat.pos_of_ne_zero
      intro hzero
      rw [hzero] at hholds
      omega
    rw [hoffset, htotal]
    exact_mod_cast mul_lt_of_lt_ceilDiv hsize (by omega)

end Page

/-! ## The rows of a window -/

/-- A range of so many rows covers the rows of a window: it starts before it stops, stops within the
rows, and has every row in it that the window passes to and is not full before. -/
structure Window.Covers (w : Window) (length : UInt64) (range : UInt64 × UInt64) : Prop where
  start_le : range.1 ≤ range.2
  stop_le : range.2 ≤ length
  row_iff : ∀ i < length.toNat, (range.1.toNat ≤ i ∧ i < range.2.toNat) ↔
    w.offset.toNat ≤ i ∧ i < w.offset.toNat + w.limit.toNat

theorem Window.covers_range (w : Window) (length : UInt64) : w.Covers length (w.range length) where
  start_le := (w.range_le length).1
  stop_le := (w.range_le length).2
  row_iff := by
    intro i hi
    have hlength : length.toNat < 2 ^ 64 := length.toNat_lt
    simp only [range, Word.toNat_min, toNat_addSaturating]
    omega

/-! ## Pages as a whole -/

/-- The arithmetic of pages is that of the integers. There is no information about a page exactly
if the count of rows is below zero or the page size is not above it; else the number of pages, the
page told about and the window are as the integers have them; and every window covers its rows. -/
theorem pages_exact (total size requested : Int64) (w : Window) (length : UInt64) :
    ((∃ cause, PageInfo.calculate total size requested = .error cause) ↔ total < 0 ∨ size ≤ 0) ∧
      (0 ≤ total → 1 ≤ size → 1 ≤ requested → PageRequest.Exact ⟨size, requested⟩ total) ∧
      w.Covers length (w.range length) := by
  refine ⟨PageInfo.exists_calculate_eq_error_iff, ?_, w.covers_range length⟩
  intro ht hs hp
  have hone : (0 : Int64) < 1 := by decide
  exact PageRequest.exact_of_pos ht (Int64.lt_of_lt_of_le hone hs) (Int64.lt_of_lt_of_le hone hp)

/-- As many rows as can be counted, in pages of two, and a page at the end of them. -/
theorem pages_exact_maxValue :
    (0 : Int64) ≤ Int64.maxValue ∧ PageRequest.Exact ⟨2, 4611686018427387905⟩ Int64.maxValue ∧
      pagesOf Int64.maxValue.toInt 2 = 4611686018427387904 ∧
      Window.Covers ⟨18446744073709551615, 5⟩ 7 (7, 7) := by
  have hcount : (0 : Int64) ≤ Int64.maxValue := by decide
  obtain ⟨-, hpages, hcovers⟩ := pages_exact Int64.maxValue 2 4611686018427387905
    ⟨18446744073709551615, 5⟩ 7
  refine ⟨hcount, hpages hcount (by decide) (by decide), ?_, hcovers⟩
  rw [pagesOf, Int.ceil_eq_iff, Int64.toInt_maxValue]
  norm_num

end RecordQuery
