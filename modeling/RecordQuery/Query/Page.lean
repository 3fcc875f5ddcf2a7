import RecordQuery.Settings.Basic

/-!
# Pages

Rows are served in pages. A request counts pages from one, the information about a page counts them
from zero. A page past the last one is the last one.

Results:
* `rows_clamp`, `one_le_page_clamp`: under valid settings a clamped request has a positive size
  within the limit and a positive page.
-/

namespace RecordQuery

/-! ## Requests -/

/-- A page that is asked for: how many rows it has and which one it is. -/
structure PageRequest where
  rows : Int64
  page : Int64
  deriving DecidableEq, Repr

namespace PageRequest

/-- The page that is served when these rows and this page are asked for. Without rows it has the
default size, and it has at most the greatest size; a page below one is the default page. -/
def clamp (settings : Settings) (rows page : Int64) : PageRequest where
  rows := if rows ≤ 0 then settings.defaultRows else min rows settings.maxRows
  page := if page < 1 then settings.defaultPage else page

/-- The page that is served when none is asked for. -/
def default (settings : Settings) : PageRequest := clamp settings 0 0

theorem rows_clamp {settings : Settings} (h : settings.Valid) (rows page : Int64) :
    0 < (clamp settings rows page).rows ∧ (clamp settings rows page).rows ≤ settings.maxRows := by
  simp only [clamp]
  split
  · exact ⟨h.rows_pos, h.rows_le_max⟩
  · next hrows =>
    have hpos : 0 < rows := Int64.not_le.1 hrows
    rw [show min rows settings.maxRows = if rows ≤ settings.maxRows then rows else settings.maxRows
      from rfl]
    split
    · next hle => exact ⟨hpos, hle⟩
    · exact ⟨Int64.lt_of_lt_of_le h.rows_pos h.rows_le_max, Int64.le_refl _⟩

theorem one_le_page_clamp {settings : Settings} (h : settings.Valid) (rows page : Int64) :
    1 ≤ (clamp settings rows page).page := by
  simp only [clamp]
  split
  · exact h.page_pos
  · exact Int64.not_lt.1 ‹_›

end PageRequest

/-! ## Windows -/

/-- A stretch of rows: how many to pass over, and how many to take at most. -/
structure Window where
  offset : UInt64
  limit : UInt64
  deriving DecidableEq, Repr

/-- A sum that stays at the greatest number instead of passing it. -/
def addSaturating (a b : UInt64) : UInt64 :=
  UInt64.ofNat (min (a.toNat + b.toNat) (UInt64.size - 1))

/-- The first row of a window over so many rows, and the row after its last. -/
def Window.range (w : Window) (length : UInt64) : UInt64 × UInt64 :=
  (min w.offset length, min (addSaturating w.offset w.limit) length)

/-- The rows of a window. -/
def Window.slice {α : Type} (w : Window) (rows : List α) : List α :=
  let (start, stop) := w.range (UInt64.ofNat rows.length)
  (rows.take stop.toNat).drop start.toNat

/-- How many pages of a size it takes to hold so many rows. -/
def pageCount (total size : UInt64) : UInt64 :=
  total / size + if total % size = 0 then 0 else 1

/-- The rows of a page, out of so many. -/
def PageRequest.window (r : PageRequest) (total : UInt64) : Window :=
  let rows := (max r.rows 1).toUInt64
  let pages := pageCount total rows
  if pages = 0 then ⟨0, rows⟩
  else ⟨(min (max r.page 1).toUInt64 pages - 1) * rows, rows⟩

/-! ## Information about a page -/

/-- What is told about a page besides its rows: which page it is, counted from zero, its size, and
how many rows and pages there are. -/
structure PageInfo where
  currentPage : Int64
  pageSize : Int64
  totalCount : Int64
  totalPages : Int64
  deriving DecidableEq, Repr

/-- The information about the requested page of so many rows. -/
def PageInfo.calculate (total size requested : Int64) : Except ArgumentError PageInfo :=
  if total < 0 then .error .negativeTotal
  else if size < 0 then .error .negativePageSize
  else if size = 0 then .error .zeroPageSize
  else
    let pages := total / size + if total % size = 0 then 0 else 1
    .ok {
      currentPage := if pages ≤ requested then max (pages - 1) 0 else requested
      pageSize := size
      totalCount := total
      totalPages := pages }

/-- The rows of a page and the information about it. -/
structure Page (α : Type) where
  info : PageInfo
  rows : List α

end RecordQuery
