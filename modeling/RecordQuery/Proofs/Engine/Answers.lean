import RecordQuery.Proofs.Paging.Checked

/-!
# What compiles is answered

A query that is made under the settings of an engine asks for a page with a size within the limit.
From a list of rows that can be counted, the engine answers every such query that compiles. No step
between the query and its page can fail, with every number checked on the way.

Results:
* `page_of_built`: the page of a query that is made under valid settings.
* `execute_built`: the runs that fail are those whose query does not compile; the others give the
  page of the checked arithmetic.
-/

namespace RecordQuery.Engine

variable {κ ρ α : Type} {e : Engine} {rowType : RowType κ ρ} {rows : List ρ} {q : Query}
  {compiled : CompiledQuery}

/-- Under the settings of an engine, every page that is asked for has a size within the limit. -/
theorem page_of_built (hq : q.Built e.settings) :
    0 < q.page.rows ∧ q.page.rows ≤ e.settings.maxRows ∧ 1 ≤ q.page.page := by
  obtain ⟨n, p, hpage⟩ := hq.exists_page_eq_clamp
  rw [hpage]
  obtain ⟨hpos, hle⟩ := PageRequest.rows_clamp e.valid n p
  exact ⟨hpos, hle, PageRequest.one_le_page_clamp e.valid n p⟩

theorem count_lt (hlen : (rows.length : ℤ) ≤ Int64.maxValue.toInt) :
    compiled.count rowType.view rows < 2 ^ 63 := by
  have hle : compiled.count rowType.view rows ≤ rows.length := List.countP_le_length
  rw [Int64.toInt_maxValue] at hlen
  omega

/-- A page that is served on its own has no more rows than its size. -/
theorem length_served_le (hcount : compiled.count rowType.view rows < 2 ^ 63)
    (hr : 0 < compiled.page.rows) (hp : 0 < compiled.page.page)
    (hpaginate : e.settings.paginateData = true) :
    ((served (e.window? compiled.page (UInt64.ofNat (compiled.count rowType.view rows)))
      (compiled.apply rowType.view rows)).length : ℤ) ≤ compiled.page.rows.toInt := by
  have hlength : (compiled.apply rowType.view rows).length = compiled.count rowType.view rows :=
    CompiledQuery.length_apply
  unfold window?
  rw [if_pos hpaginate, ← hlength, served_window (hlength ▸ hcount) hr hp,
    Word.toInt_eq_natCast (Int64.le_of_lt hr)]
  exact Int.ofNat_le.mpr (length_chunk_le _)

/-- From a list of rows that can be counted, an engine answers every query that is made under its
settings and compiles. The page is that of the checked arithmetic, and if single pages are served
it has no more rows than the limit. -/
theorem execute_built (hq : q.Built e.settings) (hlen : (rows.length : ℤ) ≤ Int64.maxValue.toInt)
    (shape : ρ → α) :
    (∀ err, (e.execute rowType (rowType.sourceOf rows : Source Id ρ) q shape).run = .error err ↔
      e.compile rowType q = .error err) ∧
    ∀ compiled, e.compile rowType q = .ok compiled → ∃ page : Page ρ,
      compiled.checkedPage? e.settings.paginateData rowType.view rows = some page ∧
      (e.execute rowType (rowType.sourceOf rows : Source Id ρ) q shape).run =
        .ok ⟨page.info, page.rows.map shape⟩ ∧
      (e.settings.paginateData = true →
        (page.rows.length : ℤ) ≤ e.settings.maxRows.toInt) := by
  obtain ⟨hpos, hle, hpage⟩ := page_of_built hq
  have hp : 0 < q.page.page := by
    rw [Int64.lt_iff_toInt_lt]
    exact Int64.le_iff_toInt_le.mp hpage
  -- whatever compiles has a page that can be told about
  have hinfo : ∀ compiled, e.compile rowType q = .ok compiled → ∃ info,
      pageInfo compiled.page (UInt64.ofNat (compiled.count rowType.view rows)) = .ok info := by
    intro compiled hcompiled
    have hrows : 0 < compiled.page.rows := by rwa [page_of_compile hcompiled]
    obtain ⟨info, hinfo, -⟩ := exists_pageInfo_eq_ok (count_lt hlen) hrows
    exact ⟨info, hinfo⟩
  refine ⟨fun err => ?_, fun compiled hcompiled => ?_⟩
  · rw [execute_eq_error_iff]
    constructor
    · rintro (hfails | ⟨compiled, hcompiled, hfails⟩)
      · exact hfails
      · obtain ⟨info, hok⟩ := hinfo compiled hcompiled
        rw [hok] at hfails
        cases hfails
    · exact .inl
  · obtain ⟨info, hok⟩ := hinfo compiled hcompiled
    refine ⟨_, CompiledQuery.checkedPage?_eq (count_lt hlen) hok, ?_, fun hpaginate => ?_⟩
    · rw [execute_sourceOf hcompiled hok]
      rfl
    · rw [← page_of_compile hcompiled] at hpos hle hp
      exact (length_served_le (count_lt hlen) hpos hp hpaginate).trans
        (Int64.le_iff_toInt_le.mp hle)

theorem execute_team_pastEnd :
    ∃ (compiled : CompiledQuery) (page : Page Person),
      ofTeam.compile personRows (ofTeam.onPage teamQuery 2 9) = .ok compiled ∧
      compiled.checkedPage? true personRows.view Person.team = some page ∧
      (ofTeam.execute personRows (personRows.sourceOf Person.team : Source Id Person)
        (ofTeam.onPage teamQuery 2 9) id).run = .ok page ∧ page.rows.length ≤ 100 := by
  have hbuilt : (ofTeam.onPage teamQuery 2 9).Built ofTeam.settings :=
    (Query.Built.empty.withParts [Person.managerFilter] none teamQuery.sorts).onPage 2 9
  have hlen : (Person.team.length : ℤ) ≤ Int64.maxValue.toInt := by decide
  obtain ⟨compiled, hcompiled⟩ : ∃ compiled,
      ofTeam.compile personRows (ofTeam.onPage teamQuery 2 9) = .ok compiled := ⟨_, rfl⟩
  obtain ⟨page, hpage, hrun, hle⟩ := (execute_built hbuilt hlen id).2 compiled hcompiled
  rw [List.map_id] at hrun
  have hlimit : ofTeam.settings.maxRows.toInt = 100 := rfl
  have hle' := hle rfl
  rw [hlimit] at hle'
  exact ⟨compiled, page, hcompiled, hpage, hrun, by omega⟩

end RecordQuery.Engine
