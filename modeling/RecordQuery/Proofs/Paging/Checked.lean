import RecordQuery.Proofs.Paging.Metadata

/-!
# Checked arithmetic of pages

The arithmetic of pages once more, with every step checked: each number is worked out as an integer
and must fit the word it is kept in, no number is divided by zero, and the range that is cut out of
the rows must lie within them. A step that fails its check gives nothing. The checks never fail, so
the arithmetic in words is that of the integers.

Results:
* `signed?_eq_some_iff`, `unsigned?_eq_some_iff`: the integers that fit a word.
* `PageInfo.checked?_eq`: the information about a page, for every count, size and page.
* `PageRequest.checkedWindow?_eq`: the window of a page, for every request and count.
* `Window.checkedSlice?_eq`: the rows of a window.
* `CompiledQuery.checkedPage?_eq`: the whole way from the wanted rows to the page.
-/

namespace RecordQuery

/-! ## Words of integers -/

namespace Word

/-- The signed word of an integer, if it fits. -/
def signed? (z : ℤ) : Option Int64 :=
  if -2 ^ 63 ≤ z ∧ z < 2 ^ 63 then some (Int64.ofInt z) else none

/-- The unsigned word of an integer, if it fits. -/
def unsigned? (z : ℤ) : Option UInt64 :=
  if 0 ≤ z ∧ z < 2 ^ 64 then some (UInt64.ofNat z.toNat) else none

theorem signed?_eq_some_iff {z : ℤ} {x : Int64} : signed? z = some x ↔ x.toInt = z := by
  unfold signed?
  constructor
  · intro h
    split at h
    · next hfits =>
      cases h
      exact Int64.toInt_ofInt_of_le hfits.1 hfits.2
    · cases h
  · rintro rfl
    rw [if_pos ⟨x.le_toInt, x.toInt_lt⟩, Int64.ofInt_toInt]

theorem unsigned?_eq_some_iff {z : ℤ} {x : UInt64} : unsigned? z = some x ↔ (x.toNat : ℤ) = z := by
  unfold unsigned?
  constructor
  · intro h
    split at h
    · next hfits =>
      cases h
      rw [UInt64.toNat_ofNat_of_lt' (show z.toNat < 2 ^ 64 by omega)]
      omega
    · cases h
  · rintro rfl
    have hlt : x.toNat < 2 ^ 64 := x.toNat_lt
    rw [if_pos (by omega), Int.toNat_natCast, UInt64.ofNat_toNat]

/-- A step whose check holds goes on with its word. -/
theorem unsigned?_bind {α : Type} {z : ℤ} {x : UInt64} (h : (x.toNat : ℤ) = z)
    (f : UInt64 → Option α) : (unsigned? z >>= f) = f x := by
  rw [unsigned?_eq_some_iff.mpr h]
  rfl

theorem signed?_bind {α : Type} {z : ℤ} {x : Int64} (h : x.toInt = z) (f : Int64 → Option α) :
    (signed? z >>= f) = f x := by
  rw [signed?_eq_some_iff.mpr h]
  rfl

theorem guard_bind {α : Type} {p : Prop} [Decidable p] (h : p) (f : Unit → Option α) :
    (guard p >>= f) = f () := by
  rw [guard, if_pos h]
  rfl

end Word

open Word

/-! ## Information about a page -/

namespace PageInfo

/-- The information about a page, with every step checked. -/
def checked? (total size requested : Int64) : Option PageInfo := do
  guard (0 ≤ total ∧ 0 < size)
  let quotient ← signed? (total.toInt.tdiv size.toInt)
  let remainder ← signed? (total.toInt.tmod size.toInt)
  let pages ← signed? (quotient.toInt + if remainder = 0 then 0 else 1)
  let current ← if pages ≤ requested then (signed? (pages.toInt - 1)).map (max · 0)
    else some requested
  return ⟨current, size, total, pages⟩

variable {total size : Int64}

theorem toInt_quotient (hs : 0 < size) : (total / size).toInt = total.toInt.tdiv size.toInt := by
  have hne : size ≠ -1 := by
    rintro rfl
    exact absurd hs (by decide)
  exact Int64.toInt_div_of_ne_right total size hne

/-- One more page for the rest does not overflow the number of pages. -/
theorem toInt_pages_eq_add (ht : 0 ≤ total) (hs : 0 < size) :
    (pages total size).toInt =
      (total / size).toInt + if total % size = 0 then 0 else 1 := by
  have hsize : 0 < size.toNatClampNeg := toNatClampNeg_pos hs
  have htotal := toInt_eq_natCast ht
  have hsize' := toInt_eq_natCast (Int64.le_of_lt hs)
  rw [toInt_totalPages ht hs, toInt_quotient hs, htotal, hsize', ← Int.ofNat_tdiv, ceilDiv_eq hsize]
  simp only [mod_eq_zero_iff ht hs]
  split <;> rfl

/-- The checks of the information about a page never fail: what they refuse is refused without
them. -/
theorem checked?_eq (total size requested : Int64) :
    checked? total size requested = (calculate total size requested).toOption := by
  by_cases h : 0 ≤ total ∧ 0 < size
  · obtain ⟨ht, hs⟩ := h
    have hpages : 0 ≤ (pages total size).toInt := by
      rw [toInt_totalPages ht hs]
      exact Int.natCast_nonneg _
    have hlast : signed? ((pages total size).toInt - 1) = some (pages total size - 1) :=
      signed?_eq_some_iff.mpr (toInt_sub_one hpages)
    rw [calculate_eq_ok_iff.mpr ⟨ht, hs, rfl⟩]
    unfold checked? current
    rw [guard_bind ⟨ht, hs⟩, signed?_bind (toInt_quotient hs),
      signed?_bind (Int64.toInt_mod total size), signed?_bind (toInt_pages_eq_add ht hs), hlast]
    split
    · rfl
    · rfl
  · cases hcalculate : calculate total size requested with
    | error cause => simp [checked?, h, Except.toOption]
    | ok info =>
      obtain ⟨ht, hs, -⟩ := calculate_eq_ok_iff.mp hcalculate
      exact absurd ⟨ht, hs⟩ h

end PageInfo

/-! ## Windows -/

namespace PageRequest

/-- The window of a page, with every step checked. -/
def checkedWindow? (r : PageRequest) (total : UInt64) : Option Window := do
  let rows ← unsigned? (max r.rows 1).toInt
  guard (rows ≠ 0)
  let quotient ← unsigned? (total.toNat / rows.toNat)
  let pages ← unsigned? (quotient.toNat + if total % rows = 0 then 0 else 1)
  if pages = 0 then
    return ⟨0, rows⟩
  let page ← unsigned? (max r.page 1).toInt
  let before ← unsigned? ((min page pages).toNat - 1)
  let offset ← unsigned? (before.toNat * rows.toNat)
  return ⟨offset, rows⟩

theorem one_le_toInt_max (x : Int64) : 1 ≤ (max x 1).toInt := by
  rw [toInt_max]
  exact le_max_right _ _

/-- A number that is at least one is the same in either kind of words. -/
theorem toNat_toUInt64_max (x : Int64) : ((max x 1).toUInt64.toNat : ℤ) = (max x 1).toInt := by
  have hle : 1 ≤ (max x 1).toInt := one_le_toInt_max x
  have hpos : 0 < max x 1 := Int64.lt_iff_toInt_lt.mpr hle
  rw [toNat_toUInt64 hpos, toInt_eq_natCast (Int64.le_of_lt hpos)]

section Window

variable {total rows pages page : UInt64}

theorem toNat_pageCount_eq_add (hrows : 0 < rows.toNat) :
    (pageCount total rows).toNat =
      (total / rows).toNat + if total % rows = 0 then 0 else 1 := by
  rw [toNat_pageCount hrows, ceilDiv_eq hrows, UInt64.toNat_div]
  simp only [Word.mod_eq_zero_iff]

/-- There is a page before the page after it. -/
theorem toNat_before (hpage : 0 < page.toNat) (hpages : 0 < pages.toNat) :
    ((min page pages - 1).toNat : ℤ) = (min page pages).toNat - 1 := by
  have hone : (1 : UInt64).toNat = 1 := rfl
  have hle : (1 : UInt64) ≤ min page pages := by
    rw [UInt64.le_iff_toNat_le, toNat_min, hone]
    omega
  rw [UInt64.toNat_sub_of_le _ _ hle, hone]
  rw [UInt64.le_iff_toNat_le, hone] at hle
  omega

/-- The rows before a page are fewer than all rows. -/
theorem toNat_offset (hrows : 0 < rows.toNat) (hpage : 0 < page.toNat)
    (hpages : 0 < (pageCount total rows).toNat) :
    ((min page (pageCount total rows) - 1) * rows).toNat =
      (min page (pageCount total rows) - 1).toNat * rows.toNat := by
  have hbefore := toNat_before hpage hpages
  have hmin : (min page (pageCount total rows)).toNat ≤ (pageCount total rows).toNat := by
    rw [toNat_min]
    exact Nat.min_le_right _ _
  rw [toNat_pageCount hrows] at hmin
  rw [UInt64.toNat_mul]
  apply Nat.mod_eq_of_lt
  calc (min page (pageCount total rows) - 1).toNat * rows.toNat
      < total.toNat := mul_lt_of_lt_ceilDiv hrows (by omega)
    _ < 2 ^ 64 := total.toNat_lt

end Window

/-- The checks of the window of a page never fail. -/
theorem checkedWindow?_eq (r : PageRequest) (total : UInt64) :
    r.checkedWindow? total = some (r.window total) := by
  have hrows := toNat_toUInt64_max r.rows
  have hpage := toNat_toUInt64_max r.page
  have hrowsPos := one_le_toInt_max r.rows
  have hpagePos := one_le_toInt_max r.page
  unfold checkedWindow? window
  rw [unsigned?_bind hrows]
  generalize (max r.rows 1).toUInt64 = rows at hrows
  have hrowsNat : 0 < rows.toNat := by omega
  have hne : rows ≠ 0 := by
    rintro rfl
    exact absurd hrowsNat (Nat.lt_irrefl 0)
  have hquotient : ((total / rows).toNat : ℤ) = total.toNat / rows.toNat := by
    rw [UInt64.toNat_div, Int.natCast_ediv]
  have hpages : ((pageCount total rows).toNat : ℤ) =
      (total / rows).toNat + if total % rows = 0 then 0 else 1 := by
    rw [toNat_pageCount_eq_add hrowsNat, Int.natCast_add]
    split <;> rfl
  rw [guard_bind hne, unsigned?_bind hquotient, unsigned?_bind hpages]
  by_cases hzero : pageCount total rows = 0
  · rw [if_pos hzero, if_pos hzero]
    rfl
  · have hcount : 0 < (pageCount total rows).toNat := by
      rw [← UInt64.toNat_inj] at hzero
      exact Nat.pos_of_ne_zero hzero
    rw [if_neg hzero, if_neg hzero, unsigned?_bind hpage]
    generalize (max r.page 1).toUInt64 = page at hpage
    have hpageNat : 0 < page.toNat := by omega
    have hoffset : (((min page (pageCount total rows) - 1) * rows).toNat : ℤ) =
        (min page (pageCount total rows) - 1).toNat * rows.toNat := by
      rw [toNat_offset hrowsNat hpageNat hcount, Int.natCast_mul]
    rw [unsigned?_bind (toNat_before hpageNat hcount), unsigned?_bind hoffset]
    rfl

end PageRequest

namespace Window

variable {α : Type} {rows : List α}

/-- The rows of a window, if it lies within the rows. -/
def checkedSlice? (w : Window) (rows : List α) : Option (List α) := do
  let length ← unsigned? rows.length
  let (start, stop) := w.range length
  guard (start ≤ stop ∧ stop ≤ length)
  return (rows.take stop.toNat).drop start.toNat

/-- A window starts before it stops, and stops within the rows. -/
theorem range_le (w : Window) (length : UInt64) :
    (w.range length).1 ≤ (w.range length).2 ∧ (w.range length).2 ≤ length := by
  have hoffset : w.offset.toNat < 2 ^ 64 := w.offset.toNat_lt
  simp only [range, UInt64.le_iff_toNat_le, toNat_min, toNat_addSaturating]
  omega

/-- The checks of the rows of a window never fail. -/
theorem checkedSlice?_eq (w : Window) (h : rows.length < 2 ^ 64) :
    w.checkedSlice? rows = some (w.slice rows) := by
  have hlength : ((UInt64.ofNat rows.length).toNat : ℤ) = rows.length := by
    rw [UInt64.toNat_ofNat_of_lt' h]
  unfold checkedSlice?
  rw [unsigned?_bind hlength]
  exact guard_bind (w.range_le _) _

end Window

/-! ## From the wanted rows to the page -/

namespace CompiledQuery

variable {ρ : Type} {q : CompiledQuery} {view : ρ → Record} {rows : List ρ}

/-- The page of a query out of a list of rows, with every step checked. If single pages are not
served, it has all wanted rows. -/
def checkedPage? (q : CompiledQuery) (paginate : Bool) (view : ρ → Record) (rows : List ρ) :
    Option (Page ρ) := do
  let count ← unsigned? (q.count view rows)
  let total ← signed? count.toNat
  let info ← PageInfo.checked? total q.page.rows q.page.page
  if paginate then
    let window ← q.page.checkedWindow? count
    let served ← window.checkedSlice? (q.apply view rows)
    return ⟨info, served⟩
  else
    return ⟨info, q.apply view rows⟩

/-- The checks of a page never fail, if it has a size and the rows can be counted. -/
theorem checkedPage?_eq {e : Engine} {info : PageInfo} (hlen : q.count view rows < 2 ^ 63)
    (h : Engine.pageInfo q.page (UInt64.ofNat (q.count view rows)) = .ok info) :
    q.checkedPage? e.settings.paginateData view rows =
      some ⟨info, Engine.served (e.window? q.page (UInt64.ofNat (q.count view rows)))
        (q.apply view rows)⟩ := by
  have hlen64 : q.count view rows < 2 ^ 64 := by omega
  have hcount : ((UInt64.ofNat (q.count view rows)).toNat : ℤ) = q.count view rows := by
    rw [UInt64.toNat_ofNat_of_lt' hlen64]
  have htotal : (Int64.ofNat (q.count view rows)).toInt =
      (UInt64.ofNat (q.count view rows)).toNat := by
    rw [hcount, Int64.toInt_ofNat_of_lt hlen]
  have hinfo : PageInfo.checked? (Int64.ofNat (q.count view rows)) q.page.rows q.page.page =
      some info := by
    unfold Engine.pageInfo at h
    obtain ⟨total, hreported, hcalculate⟩ := bind_eq_ok_iff.mp h
    rw [Engine.reportedCount_ofNat hlen] at hreported
    cases hreported
    rw [PageInfo.checked?_eq, mapError_eq_ok_iff.mp hcalculate]
    rfl
  have hslice : (q.apply view rows).length < 2 ^ 64 := by rwa [length_apply]
  unfold checkedPage? Engine.window?
  rw [unsigned?_bind hcount, signed?_bind htotal, hinfo]
  cases e.settings.paginateData with
  | false => rfl
  | true =>
    simp only [Option.bind_eq_bind, Option.bind_some, ↓reduceIte, PageRequest.checkedWindow?_eq,
      Window.checkedSlice?_eq _ hslice, Option.pure_def]
    rfl

end CompiledQuery

end RecordQuery
