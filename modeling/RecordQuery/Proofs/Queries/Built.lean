import RecordQuery.Proofs.Queries.StepByStep
import RecordQuery.Request.Reader

/-!
# Where queries come from

A query is made under some settings: as the empty query, from the text of a client, or step by step.
It can be given other conditions and sort directives later on, and another page can be asked for.
Whichever way it was made, its page is one that was asked for under these settings.

Results:
* `Built.exists_page_eq_clamp`: the page of a query is one that was asked for.
* `Built.page_eq_default_of_neg`: a page below zero can only be the default page.
-/

namespace RecordQuery

/-- The queries that are made under some settings. -/
inductive Query.Built (settings : Settings) : Query → Prop where
  | empty : Built settings (.empty settings)
  | ofText {s : String} {q : Query} (h : Query.ofText settings s = .ok q) : Built settings q
  | ofSteps {steps : List Draft.Step} {q : Query} (h : Query.ofSteps settings steps = .ok q) :
      Built settings q
  /-- The same page of other rows, or of the rows in another order. -/
  | withParts {q : Query} (h : Built settings q) (filters : List Filter) (search : Option Search)
      (sorts : List SortDirective) : Built settings { q with filters, search, sorts }
  /-- Another page. -/
  | onPage {q : Query} (h : Built settings q) (rows page : Int64) :
      Built settings { q with page := .clamp settings rows page }

namespace Query

variable {settings : Settings} {q : Query}

theorem page_orderedBy (q : Query) (sorts : List SortDirective) :
    (q.orderedBy sorts).page = q.page := by
  cases sorts <;> rfl

/-- The page of a request is the one that it asks for, or the default page. -/
theorem exists_page_of_toQuery {r : Request} (h : r.toQuery settings = .ok q) :
    ∃ rows page, q.page = .clamp settings rows page := by
  unfold Request.toQuery at h
  simp only [bind_eq_ok_iff] at h
  obtain ⟨filters, -, search, -, sorts, -, hq⟩ := h
  cases hq
  rw [page_orderedBy]
  cases r.page with
  | none => exact ⟨0, 0, rfl⟩
  | some p => exact ⟨p.rows, p.page, rfl⟩

theorem exists_page_of_ofText {s : String} (h : ofText settings s = .ok q) :
    ∃ rows page, q.page = .clamp settings rows page := by
  unfold ofText at h
  obtain ⟨r, -, hr⟩ := bind_eq_ok_iff.mp h
  exact exists_page_of_toQuery (mapError_eq_ok_iff.mp hr)

theorem exists_page_of_ofSteps {steps : List Draft.Step} (h : ofSteps settings steps = .ok q) :
    ∃ rows page, q.page = .clamp settings rows page := by
  rw [ofSteps_eq] at h
  obtain ⟨changes, -, rfl⟩ := map_eq_ok_iff.mp h
  unfold Draft.query
  rw [page_orderedBy]
  exact ⟨_, _, rfl⟩

theorem Built.exists_page_eq_clamp (h : q.Built settings) :
    ∃ rows page, q.page = .clamp settings rows page := by
  induction h with
  | empty => exact ⟨0, 0, rfl⟩
  | ofText h => exact exists_page_of_ofText h
  | ofSteps h => exact exists_page_of_ofSteps h
  | withParts _ _ _ _ ih => exact ih
  | onPage _ rows page _ => exact ⟨rows, page, rfl⟩

theorem Built.page_eq_default_of_neg (h : q.Built settings) (hneg : q.page.page < 0) :
    q.page.page = settings.defaultPage := by
  obtain ⟨rows, page, hpage⟩ := h.exists_page_eq_clamp
  rw [hpage] at hneg ⊢
  unfold PageRequest.clamp at hneg ⊢
  by_cases hlow : page < 1
  · exact if_pos hlow
  · simp only [hlow, ↓reduceIte] at hneg
    rw [Int64.lt_iff_toInt_lt] at hneg hlow
    exact absurd (show page.toInt < 1 by exact Int.lt_trans hneg (by decide)) hlow

end Query

end RecordQuery
