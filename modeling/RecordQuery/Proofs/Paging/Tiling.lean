import RecordQuery.Engine.Basic
import RecordQuery.Proofs.FirstFailure
import RecordQuery.Proofs.Paging.Arithmetic
import RecordQuery.Proofs.Sorting.Composition

/-!
# Pages tile the result

Every page is worked out anew from all rows: they are filtered and sorted again, counted again, and
cut again. The pages still fit together, so that one after the other they are all rows that are
wanted.

Results:
* `flatMap_chunk`: the first chunks of a list, one after the other.
* `execute_sourceOf`: what an engine serves from a list of rows.
* `execute_tiles`: the pages of a query.
-/

namespace RecordQuery

/-! ## Chunks -/

section Chunks

variable {α : Type} {all : List α} {size : ℕ}

/-- The chunk with a number of a list that is cut into chunks of a size, counted from zero. -/
def chunk (all : List α) (size i : ℕ) : List α := (all.drop (i * size)).take size

theorem length_chunk (i : ℕ) : (chunk all size i).length = min size (all.length - i * size) := by
  rw [chunk, List.length_take, List.length_drop]

/-- The first chunks of a list are its first elements. -/
theorem flatMap_chunk (k : ℕ) : (List.range k).flatMap (chunk all size) = all.take (k * size) := by
  induction k with
  | zero => simp
  | succ k ih =>
    rw [List.range_succ, List.flatMap_append, ih, Nat.succ_mul, List.take_add]
    simp [chunk]

theorem flatMap_chunk_ceilDiv (h : 0 < size) :
    (List.range (all.length ⌈/⌉ size)).flatMap (chunk all size) = all := by
  rw [flatMap_chunk, List.take_of_length_le (le_ceilDiv_mul h)]

/-- All chunks but the last are full. -/
theorem length_chunk_of_lt (h : 0 < size) {i : ℕ} (hi : i + 1 < all.length ⌈/⌉ size) :
    (chunk all size i).length = size := by
  have hlt : (i + 1) * size < all.length := mul_lt_of_lt_ceilDiv h hi
  rw [Nat.succ_mul] at hlt
  rw [length_chunk]
  omega

theorem length_chunk_pos (h : 0 < size) {i : ℕ} (hi : i < all.length ⌈/⌉ size) :
    0 < (chunk all size i).length := by
  have hlt : i * size < all.length := mul_lt_of_lt_ceilDiv h hi
  rw [length_chunk]
  omega

theorem length_chunk_le (i : ℕ) : (chunk all size i).length ≤ size := by
  rw [length_chunk]
  exact Nat.min_le_left ..

end Chunks

/-! ## Tilings -/

/-- Pages of a size that make up a list, so many of them and counted from one. -/
structure Tiles {α : Type} (all : List α) (size pages : ℕ) (page : Int64 → List α) : Prop where
  /-- One after the other, the pages are the list. -/
  concat : ((List.range pages).flatMap fun i => page (Int64.ofNat (i + 1))) = all
  full : ∀ p : Int64, 0 < p → p.toInt < pages → (page p).length = size
  last : 0 < pages → 0 < (page (Int64.ofNat pages)).length ∧
    (page (Int64.ofNat pages)).length ≤ size
  /-- A page past the last is the last. -/
  past : ∀ p : Int64, pages < p.toInt → page p = page (Int64.ofNat pages)
  empty : pages = 0 → ∀ p, page p = []

/-- Chunks tile a list, if a page that is counted from one is its chunk, or the last chunk when it
is past the end, and a page that is not counted from one is any chunk. -/
theorem tiles_chunk {α : Type} {all : List α} {size : ℕ} (h : 0 < size)
    (hlen : all.length < 2 ^ 63) {number : Int64 → ℕ}
    (hnumber : ∀ p, 0 < p → number p = p.toNatClampNeg) :
    Tiles all size (all.length ⌈/⌉ size) fun p =>
      chunk all size (min (number p) (all.length ⌈/⌉ size) - 1) := by
  have hpages : all.length ⌈/⌉ size < 2 ^ 63 := Nat.lt_of_le_of_lt (ceilDiv_le_self h) hlen
  have hofNat : ∀ k, 0 < k → k ≤ all.length ⌈/⌉ size → number (Int64.ofNat k) = k := by
    intro k hk hle
    rw [hnumber _ (Word.ofNat_pos hk (by omega)), Int64.toNatClampNeg_ofNat_of_lt (by omega)]
  refine ⟨?_, ?_, ?_, ?_, ?_⟩
  · refine Eq.trans (List.flatMap_congr fun i hi => ?_) (flatMap_chunk_ceilDiv h)
    rw [List.mem_range] at hi
    rw [hofNat (i + 1) (by omega) hi, Nat.min_eq_left (show i + 1 ≤ _ from hi), Nat.add_sub_cancel]
  · intro p hp hlt
    have hp' : 0 < p.toNatClampNeg := Word.toNatClampNeg_pos hp
    rw [Word.toInt_eq_natCast (Int64.le_of_lt hp)] at hlt
    rw [hnumber p hp]
    exact length_chunk_of_lt h (by omega)
  · intro hpos
    rw [hofNat _ hpos (Nat.le_refl _), Nat.min_self]
    exact ⟨length_chunk_pos h (by omega), length_chunk_le _⟩
  · intro p hlt
    have hp : 0 < p := by
      rw [Int64.lt_iff_toInt_lt]
      exact Int.lt_of_le_of_lt (Int.natCast_nonneg _) hlt
    rw [Word.toInt_eq_natCast (Int64.le_of_lt hp)] at hlt
    by_cases hpos : 0 < all.length ⌈/⌉ size
    · rw [hnumber p hp, hofNat _ hpos (Nat.le_refl _), Nat.min_self, Nat.min_eq_right (by omega)]
    · have hzero : all.length ⌈/⌉ size = 0 := by omega
      rw [hzero, Nat.min_zero, Nat.min_zero]
  · intro hzero p
    have hnil : all.length ≤ all.length ⌈/⌉ size * size := le_ceilDiv_mul h
    rw [hzero, Nat.zero_mul, Nat.le_zero, List.length_eq_zero_iff] at hnil
    rw [hnil]
    simp [chunk]

/-! ## What an engine serves -/

namespace CompiledQuery

variable {ρ : Type} {q : CompiledQuery} {view : ρ → Record} {rows : List ρ}

/-- How many rows are wanted. -/
def count (q : CompiledQuery) (view : ρ → Record) (rows : List ρ) : ℕ :=
  rows.countP fun row => q.wants (view row)

theorem length_apply : (q.apply view rows).length = q.count view rows := by
  unfold apply count
  rw [(SortPlan.sort_perm ..).length_eq, List.countP_eq_length_filter]

theorem stablySorted_apply (h : q.plan.Uniform view rows) :
    StablySorted (fun a b => q.plan.order (view a) (view b))
      (rows.filter fun row => q.wants (view row)) (q.apply view rows) := by
  refine SortPlan.stablySorted_sort fun k hk => ?_
  obtain ⟨kind, hkind⟩ := h k hk
  exact ⟨kind, fun row hrow => hkind row (List.mem_filter.mp hrow).1⟩

end CompiledQuery

namespace Engine

variable {κ ρ α : Type} {m : Type → Type} [Monad m] {e : Engine} {rowType : RowType κ ρ}
  {rows : List ρ} {q : Query} {compiled : CompiledQuery}

theorem reportedCount_ofNat {n : ℕ} (h : n < 2 ^ 63) :
    reportedCount (UInt64.ofNat n) = .ok (Int64.ofNat n) := by
  have hn : (UInt64.ofNat n).toNat = n :=
    UInt64.toNat_ofNat_of_lt' (Nat.lt_trans h (by decide))
  unfold reportedCount
  rw [hn, if_pos]
  · rfl
  · rw [Int64.toInt_maxValue]
    omega

theorem exists_pageInfo_eq_ok {page : PageRequest} {n : ℕ} (h : n < 2 ^ 63) (hr : 0 < page.rows) :
    ∃ info, pageInfo page (UInt64.ofNat n) = .ok info ∧ info.pageSize = page.rows ∧
      info.totalCount.toInt = n ∧
      info.totalPages.toInt = (n ⌈/⌉ page.rows.toNatClampNeg : ℕ) := by
  have hn : (Int64.ofNat n).toNatClampNeg = n := Int64.toNatClampNeg_ofNat_of_lt h
  have hnonneg : (0 : Int64) ≤ Int64.ofNat n := by
    rw [Int64.le_iff_toInt_le, Int64.toInt_ofNat_of_lt h]
    exact Int.natCast_nonneg n
  obtain ⟨info, hinfo, hsize, hcount, hpages⟩ :=
    PageInfo.exists_calculate_eq_ok page.page hnonneg hr
  refine ⟨info, ?_, hsize, ?_, ?_⟩
  · unfold pageInfo
    rw [bind_eq_ok_iff]
    exact ⟨_, reportedCount_ofNat h, mapError_eq_ok_iff.mpr hinfo⟩
  · rw [hcount, Int64.toInt_ofNat_of_lt h]
  · rw [hpages, hn]

/-- The rows that are served for a page: those of the window, or without a window all of them. -/
def served (window : Option Window) (wanted : List ρ) : List ρ :=
  match window with
  | some w => w.slice wanted
  | none => wanted

/-- From a list of rows, an engine serves the wanted rows of the page. -/
theorem execute_sourceOf [LawfulMonad m] (h : e.compile rowType q = .ok compiled) {info : PageInfo}
    (hinfo : pageInfo compiled.page (UInt64.ofNat (compiled.count rowType.view rows)) = .ok info)
    (shape : ρ → α) :
    e.execute rowType (rowType.sourceOf rows : Source m ρ) q shape =
      pure ⟨info, (served
        (e.window? compiled.page (UInt64.ofNat (compiled.count rowType.view rows)))
        (compiled.apply rowType.view rows)).map shape⟩ := by
  have hlift : ∀ {β : Type} (b : β),
      (liftM (Except.ok b : Except QueryError β) : ExceptT QueryError m β) = pure b := fun _ => rfl
  unfold CompiledQuery.count at *
  simp only [execute, RowType.sourceOf, h, hinfo, hlift, pure_bind]
  rfl

/-! ## The pages of a query -/

/-- The engine that serves single pages, or all rows at once. -/
def paginating (e : Engine) (b : Bool) : Engine where
  settings := { e.settings with paginateData := b }
  valid := ⟨e.valid.page_pos, e.valid.rows_pos, e.valid.rows_le_max⟩

/-- The query for the page that is served when these rows and this page are asked for. -/
def onPage (e : Engine) (q : Query) (n p : Int64) : Query :=
  { q with page := .clamp e.settings n p }

theorem compile_paginating_onPage (h : e.compile rowType q = .ok compiled) (b : Bool)
    (n p : Int64) :
    (e.paginating b).compile rowType (e.onPage q n p) =
      .ok { compiled with page := .clamp e.settings n p } := by
  unfold compile CompiledQuery.ofQuery at *
  simp only [bind_eq_ok_iff] at *
  obtain ⟨predicate, hpredicate, plan, hplan, hc⟩ := h
  cases hc
  exact ⟨predicate, hpredicate, plan, hplan, rfl⟩

/-- The rows of a page are a chunk of the wanted rows. -/
theorem served_window {page : PageRequest} {wanted : List ρ} (h : wanted.length < 2 ^ 63)
    (hr : 0 < page.rows) (hp : 0 < page.page) :
    served (some (page.window (UInt64.ofNat wanted.length))) wanted =
      chunk wanted page.rows.toNatClampNeg
        (min page.page.toNatClampNeg (wanted.length ⌈/⌉ page.rows.toNatClampNeg) - 1) := by
  have hlt : wanted.length < 2 ^ 64 := Nat.lt_trans h (by decide)
  have hlength : (UInt64.ofNat wanted.length).toNat = wanted.length :=
    UInt64.toNat_ofNat_of_lt' hlt
  show (page.window (UInt64.ofNat wanted.length)).slice wanted = _
  rw [Window.slice_eq hlt, PageRequest.toNat_limit_window hr,
    PageRequest.toNat_offset_window hr hp, hlength]
  rfl

theorem map_chunk (f : ρ → α) (all : List ρ) (size i : ℕ) :
    (chunk all size i).map f = chunk (all.map f) size i := by
  unfold chunk
  rw [List.map_take, List.map_drop]

/-- One page of a query: its rows, which are a chunk of the rows that are served without pages, and
what is told about it. -/
theorem execute_onPage [LawfulMonad m] (hlen : compiled.count rowType.view rows < 2 ^ 63)
    (h : e.compile rowType q = .ok compiled) (n p : Int64) (shape : ρ → α) :
    ∃ info : PageInfo,
      (e.paginating true).execute rowType (rowType.sourceOf rows : Source m ρ) (e.onPage q n p)
        shape = pure ⟨info, chunk ((compiled.apply rowType.view rows).map shape)
          (e.onPage q n p).page.rows.toNatClampNeg
          (min (e.onPage q n p).page.page.toNatClampNeg (compiled.count rowType.view rows ⌈/⌉
            (e.onPage q n p).page.rows.toNatClampNeg) - 1)⟩ ∧
      (e.paginating false).execute rowType (rowType.sourceOf rows : Source m ρ) (e.onPage q n p)
        shape = pure ⟨info, (compiled.apply rowType.view rows).map shape⟩ ∧
      info.totalCount.toInt = compiled.count rowType.view rows ∧
      info.totalPages.toInt = (compiled.count rowType.view rows ⌈/⌉
        (e.onPage q n p).page.rows.toNatClampNeg : ℕ) := by
  have hr : 0 < (e.onPage q n p).page.rows := (PageRequest.rows_clamp e.valid n p).1
  have hp : 0 < (e.onPage q n p).page.page := PageRequest.one_le_page_clamp e.valid n p
  have hlength : (compiled.apply rowType.view rows).length = compiled.count rowType.view rows :=
    CompiledQuery.length_apply
  obtain ⟨info, hinfo, -, hcount, hpages⟩ := exists_pageInfo_eq_ok hlen hr
  refine ⟨info, ?_, ?_, hcount, hpages⟩
  · rw [execute_sourceOf (compile_paginating_onPage h true n p) hinfo, ← map_chunk, ← hlength,
      ← served_window (hlength ▸ hlen) hr hp, hlength]
    rfl
  · rw [execute_sourceOf (compile_paginating_onPage h false n p) hinfo]
    rfl

/-- A query that compiles has pages, which tile the rows that are served when single pages are not
served. These are the wanted rows, each once and in the order of the plan. What is told about a page
tells how many rows are wanted and how many pages they make up, for every page alike. -/
theorem execute_tiles [LawfulMonad m] (hlen : (rows.length : ℤ) ≤ Int64.maxValue.toInt)
    (h : e.compile rowType q = .ok compiled) (hrows : compiled.plan.Uniform rowType.view rows)
    (n : Int64) (shape : ρ → α) :
    ∃ (page : Int64 → List α) (info : Int64 → PageInfo) (size pages : ℕ),
      (∀ p, (e.onPage q n p).page.rows.toInt = size) ∧
      (∀ p, (e.paginating true).execute rowType (rowType.sourceOf rows : Source m ρ)
        (e.onPage q n p) shape = pure ⟨info p, page p⟩) ∧
      (∀ p, (e.paginating false).execute rowType (rowType.sourceOf rows : Source m ρ)
        (e.onPage q n p) shape = pure ⟨info p, (compiled.apply rowType.view rows).map shape⟩) ∧
      (compiled.apply rowType.view rows).Perm
        (rows.filter fun row => compiled.wants (rowType.view row)) ∧
      (compiled.apply rowType.view rows).Pairwise
        (fun a b => compiled.plan.order (rowType.view a) (rowType.view b) ≠ .gt) ∧
      (∀ p, (info p).totalCount.toInt = compiled.count rowType.view rows ∧
        (info p).totalPages.toInt = pages) ∧
      pages = compiled.count rowType.view rows ⌈/⌉ size ∧
      Tiles ((compiled.apply rowType.view rows).map shape) size pages page := by
  have hcount : compiled.count rowType.view rows < 2 ^ 63 := by
    have hle : compiled.count rowType.view rows ≤ rows.length := List.countP_le_length
    rw [Int64.toInt_maxValue] at hlen
    omega
  have hsorted := CompiledQuery.stablySorted_apply hrows
  -- the size is that of the first page, for every page
  have hsize : ∀ p, 0 < (e.onPage q n p).page.rows := fun p =>
    (PageRequest.rows_clamp e.valid n p).1
  choose info hpage hall htotal hpages using fun p =>
    execute_onPage (m := m) (α := α) hcount h n p shape
  refine ⟨_, info, (e.onPage q n 1).page.rows.toNatClampNeg, _,
    fun p => Word.toInt_eq_natCast (Int64.le_of_lt (hsize p)), hpage, hall, hsorted.perm,
    hsorted.pairwise, fun p => ⟨htotal p, hpages p⟩, rfl, ?_⟩
  have hlength : ((compiled.apply rowType.view rows).map shape).length =
      compiled.count rowType.view rows := by
    rw [List.length_map, CompiledQuery.length_apply]
  rw [← hlength] at hcount ⊢
  exact tiles_chunk (Word.toNatClampNeg_pos (hsize 1)) hcount
    fun p hp => congrArg Int64.toNatClampNeg (PageRequest.page_clamp_of_pos hp)

/-- An engine that sorts by one key after the other. -/
def ofTeam : Engine := ⟨{ sortComposition := .sequential }, by decide, by decide, by decide⟩

/-- Persons as rows. -/
def personRows : RowType Unit Person := ⟨Person.catalog, Person.schema, Person.record⟩

/-- The query for persons with a certain manager, sorted by the manager's name and above that by
age. -/
def teamQuery : Query where
  filters := [Person.managerFilter]
  search := none
  sorts := [⟨"manager.name", true⟩, ⟨"Age", false⟩]
  page := ⟨2, 1⟩

theorem execute_team :
    ∃ compiled, ofTeam.compile personRows teamQuery = .ok compiled ∧
      compiled.plan.Uniform personRows.view Person.team ∧
      ∃ (page : Int64 → List Person) (info : Int64 → PageInfo),
        (∀ p, (ofTeam.paginating true).execute personRows (personRows.sourceOf Person.team)
          (ofTeam.onPage teamQuery 1 p) id = (pure ⟨info p, page p⟩ : ExceptT QueryError Id _)) ∧
        Tiles (compiled.apply personRows.view Person.team) 1 2 page := by
  have hlen : (Person.team.length : ℤ) ≤ Int64.maxValue.toInt := by decide
  obtain ⟨compiled, h, hplan, hcount⟩ : ∃ compiled,
      ofTeam.compile personRows teamQuery = .ok compiled ∧ compiled.plan = SortPlan.ofTeam ∧
        compiled.count personRows.view Person.team = 2 := ⟨_, rfl, rfl, by decide⟩
  have hrows : compiled.plan.Uniform personRows.view Person.team := hplan ▸ SortPlan.uniform_ofTeam
  obtain ⟨page, info, size, pages, hsize, hpage, -, -, -, -, hpages, htiles⟩ :=
    execute_tiles (m := Id) hlen h hrows 1 id
  have hsize1 : (1 : ℤ) = size := hsize 1
  obtain rfl : size = 1 := by omega
  have hpages2 : pages = 2 := by
    rw [hpages, hcount]
    rfl
  rw [List.map_id, hpages2] at htiles
  exact ⟨compiled, h, hrows, page, info, hpage, htiles⟩

end Engine

end RecordQuery
