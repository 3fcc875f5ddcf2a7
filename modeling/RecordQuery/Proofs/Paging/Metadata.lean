import RecordQuery.Proofs.Engine.InMemory
import RecordQuery.Proofs.Queries.Built

/-!
# What is told about a page

The information about a page is worked out from a count of rows and the page that was asked for. A
page size below one is refused, but a page below zero is told about as it is. No client can ask for
such a page; it comes from settings that no engine was made with, whose default page is below zero.

Results:
* `calculate_eq_ok_iff`: when there is information about a page, and which.
* `toInt_currentPage`: the page that is told about, as an integer.
* `signs_of_execute`: what is told about a page is never below zero, except for a default page that
  is, and the page told about is one of the pages.
* `negative_page_of_execute`: a page below zero.
-/

namespace RecordQuery

theorem Word.toInt_max (a b : Int64) : (max a b).toInt = max a.toInt b.toInt := by
  show (if a ≤ b then b else a).toInt = _
  split
  · next h => exact (max_eq_right (Int64.le_iff_toInt_le.mp h)).symm
  · next h =>
    rw [Int64.le_iff_toInt_le, not_le] at h
    exact (max_eq_left h.le).symm

theorem Word.toInt_sub_one {p : Int64} (hp : 0 ≤ p.toInt) : (p - 1).toInt = p.toInt - 1 := by
  have hlt : p.toInt < 2 ^ 63 := p.toInt_lt
  have hone : (1 : Int64).toInt = 1 := rfl
  rw [Int64.toInt_sub, hone]
  exact Int.bmod_eq_of_le (by omega) (by omega)

namespace PageInfo

variable {total size requested : Int64} {info : PageInfo}

/-- The number of pages, in words. -/
def pages (total size : Int64) : Int64 := total / size + if total % size = 0 then 0 else 1

/-- The page that is told about, counted from zero: the one asked for, or the last. -/
def current (pages requested : Int64) : Int64 :=
  if pages ≤ requested then max (pages - 1) 0 else requested

theorem calculate_eq_ok_iff :
    calculate total size requested = .ok info ↔ 0 ≤ total ∧ 0 < size ∧
      info = ⟨current (pages total size) requested, size, total, pages total size⟩ := by
  unfold calculate
  by_cases ht : total < 0
  · rw [if_pos ht]
    simp [Int64.not_le.mpr ht]
  · rw [if_neg ht]
    by_cases hs : size < 0
    · have hs' : ¬0 < size := fun h => Int64.lt_irrefl (Int64.lt_trans h hs)
      simp [hs, hs']
    · rw [if_neg hs]
      by_cases hzero : size = 0
      · simp [hzero]
      · have hpos : 0 < size := by
          rw [Int64.lt_iff_toInt_lt] at hs ⊢
          rw [← Int64.toInt_inj] at hzero
          exact lt_of_le_of_ne (not_lt.mp hs) (Ne.symm hzero)
        rw [if_neg hzero, Except.ok.injEq, eq_comm]
        exact ⟨fun h => ⟨Int64.not_lt.mp ht, hpos, h⟩, fun h => h.2.2⟩

theorem toInt_totalPages (ht : 0 ≤ total) (hs : 0 < size) :
    (pages total size).toInt = (total.toNatClampNeg ⌈/⌉ size.toNatClampNeg : ℕ) :=
  toInt_pages ht hs

theorem toInt_currentPage {p : Int64} (hp : 0 ≤ p.toInt) :
    (current p requested).toInt =
      if p.toInt ≤ requested.toInt then max (p.toInt - 1) 0 else requested.toInt := by
  unfold current
  simp only [Int64.le_iff_toInt_le]
  split
  · rw [Word.toInt_max, Word.toInt_sub_one hp]
    rfl
  · rfl

/-- What is told about a page, but for the page itself, is never below zero, and the page is one of
the pages, counted from zero. It is below zero only if such a page was asked for. -/
theorem signs_of_calculate (h : calculate total size requested = .ok info) :
    0 ≤ info.pageSize ∧ 0 ≤ info.totalCount ∧ 0 ≤ info.totalPages ∧
      info.currentPage < max info.totalPages 1 ∧ (info.currentPage < 0 ↔ requested < 0) := by
  obtain ⟨ht, hs, rfl⟩ := calculate_eq_ok_iff.mp h
  have hpages : 0 ≤ (pages total size).toInt := by
    rw [toInt_totalPages ht hs]
    exact Int.natCast_nonneg _
  have hcurrent : (current (pages total size) requested).toInt = _ := toInt_currentPage hpages
  have hzero : (0 : Int64).toInt = 0 := rfl
  have hone : (1 : Int64).toInt = 1 := rfl
  simp only [Int64.lt_iff_toInt_lt, Int64.le_iff_toInt_le, Word.toInt_max, hzero, hone] at ht hs ⊢
  refine ⟨hs.le, ht, hpages, ?_, ?_⟩
  · rw [hcurrent]
    split <;> omega
  · rw [hcurrent]
    split <;> omega

end PageInfo

namespace Engine

variable {κ ρ α : Type} {e : Engine} {rowType : RowType κ ρ} {rows : List ρ} {shape : ρ → α}
  {settings : Settings} {q : Query} {page : Page α}

theorem calculate_of_pageInfo {request : PageRequest} {count : UInt64} {info : PageInfo}
    (h : pageInfo request count = .ok info) :
    ∃ total, PageInfo.calculate total request.rows request.page = .ok info := by
  unfold pageInfo at h
  obtain ⟨total, -, hinfo⟩ := bind_eq_ok_iff.mp h
  exact ⟨total, mapError_eq_ok_iff.mp hinfo⟩

/-- Whatever settings a query was made under, of an engine's answer from a list of rows nothing is
below zero but a default page that is, and the page is one of the pages. -/
theorem signs_of_execute (hq : q.Built settings)
    (h : (e.execute rowType (rowType.sourceOf rows : Source Id ρ) q shape).run = .ok page) :
    0 ≤ page.info.pageSize ∧ 0 ≤ page.info.totalCount ∧ 0 ≤ page.info.totalPages ∧
      page.info.currentPage < max page.info.totalPages 1 ∧
      (page.info.currentPage < 0 ↔
        q.page.page = settings.defaultPage ∧ settings.defaultPage < 0) := by
  obtain ⟨compiled, hcompiled, hpage⟩ := execute_eq_ok_iff.mp h
  obtain ⟨info, hinfo, rfl⟩ := map_eq_ok_iff.mp hpage
  rw [page_of_compile hcompiled] at hinfo
  obtain ⟨total, hcalculate⟩ := calculate_of_pageInfo hinfo
  obtain ⟨hsize, hcount, hpages, hlt, hneg⟩ := PageInfo.signs_of_calculate hcalculate
  refine ⟨hsize, hcount, hpages, hlt, hneg.trans ⟨?_, ?_⟩⟩
  · intro hbelow
    have hdefault := hq.page_eq_default_of_neg hbelow
    exact ⟨hdefault, hdefault ▸ hbelow⟩
  · rintro ⟨hdefault, hbelow⟩
    exact hdefault ▸ hbelow

theorem signs_of_team :
    let q := Query.empty { defaultPage := 2, defaultRows := 4 }
    ∃ page, (ofTeam.execute personRows (personRows.sourceOf Person.team : Source Id Person) q
        id).run = .ok page ∧ page.info = ⟨1, 4, 6, 2⟩ ∧
      page.info.currentPage < max page.info.totalPages 1 := by
  intro q
  obtain ⟨compiled, hcompiled, hcount, hpage⟩ : ∃ compiled,
      ofTeam.compile personRows q = .ok compiled ∧
        compiled.count personRows.view Person.team = 6 ∧ compiled.page = ⟨4, 2⟩ :=
    ⟨_, rfl, by decide, rfl⟩
  have hinfo : pageInfo compiled.page
      (UInt64.ofNat (compiled.count personRows.view Person.team)) = .ok ⟨1, 4, 6, 2⟩ := by
    rw [hcount, hpage]
    rfl
  obtain ⟨page, hrun, hpageInfo⟩ := exists_execute_eq_ok hcompiled hinfo id
  exact ⟨page, hrun, hpageInfo, (signs_of_execute .empty hrun).2.2.2.1⟩

/-- Settings that no engine may run with, but a query may be made under: of the one page that there
is, the engine tells that it comes before all pages. -/
theorem negative_page_of_execute :
    let q := Query.empty { defaultPage := -5 }
    ∃ page, (ofTeam.execute personRows
        (personRows.sourceOf [Person.head "Ann" none] : Source Id Person) q id).run = .ok page ∧
      page.info = ⟨-5, 10, 1, 1⟩ ∧ page.info.currentPage < 0 := by
  intro q
  obtain ⟨compiled, hcompiled, hcount, hpage⟩ : ∃ compiled,
      ofTeam.compile personRows q = .ok compiled ∧
        compiled.count personRows.view [Person.head "Ann" none] = 1 ∧ compiled.page = ⟨10, -5⟩ :=
    ⟨_, rfl, by decide, rfl⟩
  have hinfo : pageInfo compiled.page
      (UInt64.ofNat (compiled.count personRows.view [Person.head "Ann" none])) =
        .ok ⟨-5, 10, 1, 1⟩ := by
    rw [hcount, hpage]
    rfl
  obtain ⟨page, hrun, hpageInfo⟩ := exists_execute_eq_ok hcompiled hinfo id
  exact ⟨page, hrun, hpageInfo, by rw [hpageInfo]; decide⟩

end Engine

end RecordQuery
