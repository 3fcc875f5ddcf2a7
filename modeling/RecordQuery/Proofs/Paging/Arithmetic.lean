import Mathlib.Algebra.Order.Floor.Div
import RecordQuery.Query.Page

/-!
# Arithmetic of pages

Pages are worked out twice, for the window of rows in unsigned words and for the information about
the page in signed ones. Neither computation overflows, and both count as many pages as it takes to
hold the rows, which is a division rounded up.

Results:
* `toNat_pageCount`, `toInt_pages`: the number of pages in either kind of words.
* `toNat_limit_window`, `toNat_offset_window`: the window of a page.
* `slice_eq`: a window passes over rows and takes some of the rest.
* `exists_calculate_eq_ok`: the information about a page.
-/

namespace RecordQuery

/-! ## Division rounded up -/

section Division

variable {n s k : ℕ}

theorem ceilDiv_eq (h : 0 < s) : n ⌈/⌉ s = n / s + if n % s = 0 then 0 else 1 := by
  have hn : s * (n / s) + n % s = n := Nat.div_add_mod n s
  have hlt : n % s < s := Nat.mod_lt n h
  have hcomm : s * (n / s) = n / s * s := Nat.mul_comm _ _
  have hsucc : (n / s + 1) * s = n / s * s + s := Nat.succ_mul _ _
  have hsucc2 : (n / s + 1 + 1) * s = (n / s + 1) * s + s := Nat.succ_mul _ _
  rw [Nat.ceilDiv_eq_add_pred_div]
  split
  · rw [Nat.add_zero]
    apply Nat.div_eq_of_lt_le <;> omega
  · apply Nat.div_eq_of_lt_le <;> omega

theorem ceilDiv_le_self (h : 0 < s) : n ⌈/⌉ s ≤ n :=
  (ceilDiv_le_iff_le_mul h).mpr (Nat.le_mul_of_pos_left n h)

theorem le_ceilDiv_mul (h : 0 < s) : n ≤ n ⌈/⌉ s * s := by
  rw [Nat.mul_comm]
  exact (ceilDiv_le_iff_le_mul h).mp (Nat.le_refl _)

/-- A page before the last starts below the last row. -/
theorem mul_lt_of_lt_ceilDiv (h : 0 < s) (hk : k < n ⌈/⌉ s) : k * s < n := by
  rw [Nat.mul_comm]
  by_contra hle
  have := (ceilDiv_le_iff_le_mul h).mpr (Nat.not_lt.mp hle)
  omega

end Division

/-! ## Words -/

namespace Word

theorem toNat_min (a b : UInt64) : (min a b).toNat = min a.toNat b.toNat := by
  show (if a ≤ b then a else b).toNat = _
  split
  · next h => exact (Nat.min_eq_left (UInt64.le_iff_toNat_le.mp h)).symm
  · next h =>
    rw [UInt64.le_iff_toNat_le] at h
    exact (Nat.min_eq_right (by omega)).symm

theorem toInt_eq_natCast {x : Int64} (h : 0 ≤ x) : x.toInt = x.toNatClampNeg := by
  rw [Int64.le_iff_toInt_le] at h
  rw [← Int64.toNat_toInt]
  exact (Int.toNat_of_nonneg h).symm

theorem toNatClampNeg_pos {x : Int64} (h : 0 < x) : 0 < x.toNatClampNeg :=
  (Int64.toNatClampNeg_pos_iff x).mpr h

theorem ofNat_pos {n : ℕ} (hn : 0 < n) (hlt : n < 2 ^ 63) : 0 < Int64.ofNat n := by
  rw [← Int64.toNatClampNeg_pos_iff, Int64.toNatClampNeg_ofNat_of_lt hlt]
  exact hn

theorem one_le_of_pos {x : Int64} (h : 0 < x) : 1 ≤ x := by
  rw [Int64.lt_iff_toInt_lt] at h
  rw [Int64.le_iff_toInt_le]
  exact h

theorem max_one_eq {x : Int64} (h : 0 < x) : max x 1 = x := by
  show (if x ≤ 1 then 1 else x) = x
  split
  · next hle => exact Int64.le_antisymm (one_le_of_pos h) hle
  · rfl

theorem bmod_natCast {n : ℕ} (h : n < 2 ^ 63) : (n : ℤ).bmod (2 ^ 64) = n :=
  Int.bmod_eq_of_le (by omega) (by omega)

theorem mod_eq_zero_iff {a b : UInt64} : a % b = 0 ↔ a.toNat % b.toNat = 0 := by
  rw [← UInt64.toNat_inj, UInt64.toNat_mod]
  rfl

end Word

/-! ## Windows -/

theorem toNat_pageCount {total size : UInt64} (h : 0 < size.toNat) :
    (pageCount total size).toNat = total.toNat ⌈/⌉ size.toNat := by
  have hle : total.toNat ⌈/⌉ size.toNat ≤ total.toNat := ceilDiv_le_self h
  have hlt : total.toNat < 2 ^ 64 := total.toNat_lt
  have hrest : (if total % size = 0 then 0 else 1 : UInt64).toNat =
      if total.toNat % size.toNat = 0 then 0 else 1 := by
    simp only [Word.mod_eq_zero_iff]
    split <;> rfl
  rw [ceilDiv_eq h] at *
  unfold pageCount
  rw [UInt64.toNat_add, UInt64.toNat_div, hrest]
  exact Nat.mod_eq_of_lt (by omega)

namespace PageRequest

variable {r : PageRequest} {total : UInt64}

theorem toNat_toUInt64 {x : Int64} (h : 0 < x) : x.toUInt64.toNat = x.toNatClampNeg :=
  Int64.toNat_toUInt64_of_le (Int64.le_of_lt h)

/-- A page that is counted from one is served as asked for. -/
theorem page_clamp_of_pos {settings : Settings} {n p : Int64} (hp : 0 < p) :
    (clamp settings n p).page = p :=
  if_neg (Int64.not_lt.mpr (Word.one_le_of_pos hp))

theorem toNat_limit_window (hr : 0 < r.rows) :
    (r.window total).limit.toNat = r.rows.toNatClampNeg := by
  simp only [window, Word.max_one_eq hr]
  split <;> exact toNat_toUInt64 hr

/-- The window starts at the page that is asked for, or at the last one. -/
theorem toNat_offset_window (hr : 0 < r.rows) (hp : 0 < r.page) :
    (r.window total).offset.toNat =
      (min r.page.toNatClampNeg (total.toNat ⌈/⌉ r.rows.toNatClampNeg) - 1) *
        r.rows.toNatClampNeg := by
  have hsize : 0 < r.rows.toNatClampNeg := Word.toNatClampNeg_pos hr
  have hpage : 0 < r.page.toNatClampNeg := Word.toNatClampNeg_pos hp
  have hrows : r.rows.toUInt64.toNat = r.rows.toNatClampNeg := toNat_toUInt64 hr
  have hpages : (pageCount total r.rows.toUInt64).toNat =
      total.toNat ⌈/⌉ r.rows.toNatClampNeg := by
    rw [toNat_pageCount (hrows ▸ hsize), hrows]
  simp only [window, Word.max_one_eq hr, Word.max_one_eq hp]
  split
  · next h =>
    rw [← hpages, h]
    show 0 = (min _ 0 - 1) * _
    rw [Nat.min_zero, Nat.zero_sub, Nat.zero_mul]
  · next h =>
    rw [← UInt64.toNat_inj, hpages] at h
    have hmin : (min r.page.toUInt64 (pageCount total r.rows.toUInt64)).toNat =
        min r.page.toNatClampNeg (total.toNat ⌈/⌉ r.rows.toNatClampNeg) := by
      rw [Word.toNat_min, hpages, toNat_toUInt64 hp]
    have hpos : 0 < total.toNat ⌈/⌉ r.rows.toNatClampNeg := Nat.pos_of_ne_zero h
    have hbefore : (1 : UInt64) ≤ min r.page.toUInt64 (pageCount total r.rows.toUInt64) := by
      rw [UInt64.le_iff_toNat_le, hmin]
      show 1 ≤ _
      omega
    -- the product is below the number of rows, so it does not wrap
    have hlt := mul_lt_of_lt_ceilDiv hsize
      (show min r.page.toNatClampNeg (total.toNat ⌈/⌉ r.rows.toNatClampNeg) - 1 <
        total.toNat ⌈/⌉ r.rows.toNatClampNeg by omega)
    rw [UInt64.toNat_mul, UInt64.toNat_sub_of_le _ _ hbefore, hmin, hrows]
    exact Nat.mod_eq_of_lt (Nat.lt_trans hlt total.toNat_lt)

end PageRequest

theorem toNat_addSaturating (a b : UInt64) :
    (addSaturating a b).toNat = min (a.toNat + b.toNat) (2 ^ 64 - 1) := by
  unfold addSaturating
  rw [UInt64.toNat_ofNat_of_lt']
  · rfl
  · show min _ (2 ^ 64 - 1) < 2 ^ 64
    omega

/-- A window passes over rows and takes some of the rest. -/
theorem Window.slice_eq {α : Type} {rows : List α} (h : rows.length < 2 ^ 64) (w : Window) :
    w.slice rows = (rows.drop w.offset.toNat).take w.limit.toNat := by
  have hlength : (UInt64.ofNat rows.length).toNat = rows.length := UInt64.toNat_ofNat_of_lt' h
  simp only [slice, range]
  rw [Word.toNat_min, Word.toNat_min, hlength, toNat_addSaturating, List.drop_take]
  by_cases ho : w.offset.toNat ≤ rows.length
  · rw [Nat.min_eq_left ho, List.take_eq_take_iff, List.length_drop]
    omega
  · have hmin : min w.offset.toNat rows.length = rows.length := Nat.min_eq_right (by omega)
    rw [hmin, List.drop_length, List.take_nil, List.drop_eq_nil_of_le (by omega), List.take_nil]

/-! ## Information about a page -/

namespace PageInfo

variable {total size : Int64}

/-- The rest of a division is zero in words if it is in numbers. -/
theorem mod_eq_zero_iff (ht : 0 ≤ total) (hs : 0 < size) :
    total % size = 0 ↔ total.toNatClampNeg % size.toNatClampNeg = 0 := by
  rw [← Int64.toInt_inj, Int64.toInt_mod, Word.toInt_eq_natCast ht,
    Word.toInt_eq_natCast (Int64.le_of_lt hs), ← Int.ofNat_tmod]
  exact Int.natCast_eq_zero

theorem toInt_pages (ht : 0 ≤ total) (hs : 0 < size) :
    (total / size + if total % size = 0 then 0 else 1 : Int64).toInt =
      (total.toNatClampNeg ⌈/⌉ size.toNatClampNeg : ℕ) := by
  have hsize : 0 < size.toNatClampNeg := Word.toNatClampNeg_pos hs
  have hle : total.toNatClampNeg ⌈/⌉ size.toNatClampNeg ≤ total.toNatClampNeg :=
    ceilDiv_le_self hsize
  have hlt : total.toNatClampNeg < 2 ^ 63 := total.toNatClampNeg_lt
  have htotal := Word.toInt_eq_natCast ht
  have hsize' := Word.toInt_eq_natCast (Int64.le_of_lt hs)
  have hrest : (if total % size = 0 then 0 else 1 : Int64).toInt =
      (if total.toNatClampNeg % size.toNatClampNeg = 0 then 0 else 1 : ℕ) := by
    simp only [mod_eq_zero_iff ht hs]
    split <;> rfl
  rw [ceilDiv_eq hsize] at *
  rw [Int64.toInt_add, Int64.toInt_div, hrest, htotal, hsize', ← Int.ofNat_tdiv,
    Word.bmod_natCast (by omega), ← Int.natCast_add]
  exact Word.bmod_natCast (by omega)

/-- The information about a page of rows that can be counted, if the page has a size. -/
theorem exists_calculate_eq_ok (requested : Int64) (ht : 0 ≤ total) (hs : 0 < size) :
    ∃ info, calculate total size requested = .ok info ∧ info.pageSize = size ∧
      info.totalCount = total ∧
      info.totalPages.toInt = (total.toNatClampNeg ⌈/⌉ size.toNatClampNeg : ℕ) := by
  have hs' : size ≠ 0 := by
    rintro rfl
    exact Int64.lt_irrefl hs
  unfold calculate
  rw [if_neg (Int64.not_lt.mpr ht), if_neg (Int64.not_lt.mpr (Int64.le_of_lt hs)), if_neg hs']
  exact ⟨_, rfl, rfl, rfl, toInt_pages ht hs⟩

end PageInfo

end RecordQuery
