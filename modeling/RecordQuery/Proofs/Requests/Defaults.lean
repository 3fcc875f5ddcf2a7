import RecordQuery.Proofs.Json.Places
import RecordQuery.Proofs.Requests.RoundTrip
import RecordQuery.Proofs.Text.LetterCase
import RecordQuery.Request.Printer
import RecordQuery.Request.Reader

/-!
# What a request leaves out

Whatever a request leaves out stands for a value that could have been written, and a code may be
written in any letter case and between spaces. Here this is said of the documents, one change at a
time: a member that is missing or null is written out as its default, or a code is spelled in
another way, anywhere in the request. Each such change leaves the query that is asked for as it is,
and the fault that is reported as well; so does any number of them, in either direction.

What a draft of a structure says with its codes resolved and its defaults filled in is its meaning;
each part of a request is followed from the meaning of its draft to what it turns into.

Results:
* `FilterRequest.alike_of_rewritten` and its like for a search, a sort directive and a page: one
  part that is written in another way.
* `Request.alike_of_rewritten`: a request of which one part is written in another way.
* `Query.ofText_eq_of_rewritten`: texts whose documents differ in this way only.
-/

namespace RecordQuery

open Json

/-! ## Writing a request in another way -/

/-- A code is written in another way: null as the code that it stands for, or the same code in
another spelling. -/
inductive CodeRewritten (default : String) : Document → Document → Prop where
  | null : CodeRewritten default .null (.ofString default)
  | respelled {s t : String} (h : Text.SameCode s t) :
      CodeRewritten default (.ofString s) (.ofString t)

/-- One of the two codes of a filter or a search is written in another way. -/
def CodesRewritten {δ : Type} (slots : List (Slot δ)) (operand connective : String)
    (d e : Document) : Prop :=
  MemberRewritten slots "operand" (.ofString operand) (CodeRewritten operand) d e ∨
    MemberRewritten slots "operator" (.ofString connective) (CodeRewritten connective) d e

/-- A structure is never null, however its codes are written. -/
theorem CodesRewritten.ne_null {δ : Type} {slots : List (Slot δ)} {operand connective : String}
    {d e : Document} (h : CodesRewritten slots operand connective d e) : d ≠ .null ∧ e ≠ .null := by
  rcases h with h | h
  · exact h.ne_null
  · exact h.ne_null

/-- A filter is written in another way. -/
def FilterRequest.Rewritten : Document → Document → Prop := CodesRewritten slots "eq" "and"

/-- A search is written in another way. -/
def SearchRequest.Rewritten : Document → Document → Prop := CodesRewritten slots "cn" "or"

/-- A sort directive is written in another way. -/
def SortDirective.Rewritten : Document → Document → Prop :=
  MemberRewritten slots "ascending" (.bool true) fun _ _ => False

/-- The page that asks for the default page. -/
def PageRequest.zero : PageRequest := ⟨0, 0⟩

/-- A page is written in another way. -/
inductive PageRequest.Rewritten : Document → Document → Prop where
  | null : Rewritten .null zero.toDocument
  | rows {d e : Document}
      (h : MemberRewritten slots "rows" (.number (.ofInt 0)) (fun _ _ => False) d e) :
      Rewritten d e
  | page {d e : Document}
      (h : MemberRewritten slots "page" (.number (.ofInt 0)) (fun _ _ => False) d e) :
      Rewritten d e

/-- A request is written in another way. -/
inductive Request.Rewritten : Document → Document → Prop where
  | filters {d e : Document}
      (h : MemberRewritten slots "filters" (.array []) (ItemRewritten FilterRequest.Rewritten)
        d e) : Rewritten d e
  | search {d e : Document}
      (h : MemberRewritten slots "search" .null SearchRequest.Rewritten d e) : Rewritten d e
  | sorts {d e : Document}
      (h : MemberRewritten slots "sort" (.array []) (ItemRewritten SortDirective.Rewritten) d e) :
      Rewritten d e
  | page {d e : Document}
      (h : MemberRewritten slots "pagination" PageRequest.zero.toDocument PageRequest.Rewritten
        d e) : Rewritten d e

/-! ## Codes -/

section Codes

variable {α : Type} {default : String} {a : α} {ofCode : String → Except ArgumentError α}
  {d e : Document}

theorem CodeRewritten.alike (h : CodeRewritten default d e) (hdefault : ofCode default = .ok a)
    (hspelling : ∀ {s t}, Text.SameCode s t → ofCode s = ofCode t) :
    Alike (fun c c' => codeOr a ofCode c = codeOr a ofCode c') (Reader.nullable .text d)
      (Reader.nullable .text e) := by
  cases h with
  | null => exact .ok hdefault.symm
  | respelled h => exact .ok (hspelling h)

/-- A code that is written in another way makes no difference, if only what it stands for matters
in a draft, and null is as good as nothing. -/
theorem Json.Respects.alike_of_code {δ μ β : Type} {slots : List (Slot δ)} {empty : δ}
    {meaning : δ → μ} (hrespects : Respects slots empty meaning) {name : String}
    (h : MemberRewritten slots name (.ofString default) (CodeRewritten default) d e)
    {get : δ → Option (Option String)} {set : δ → Option String → δ}
    (hslot : slots.find? (·.name == name) = some (.option name get set (.nullable .text)))
    (hdefault : ofCode default = .ok a)
    (hspelling : ∀ {s t}, Text.SameCode s t → ofCode s = ofCode t)
    (hset : ∀ p c c', codeOr a ofCode c = codeOr a ofCode c' →
      meaning (set p c) = meaning (set p c'))
    (hnone : ∀ p, get p = none → meaning p = meaning (set p none))
    {R : β → β → Prop} {finish : δ → Except Refusal β}
    (hfinish : ∀ p q, meaning p = meaning q → Alike R (finish p) (finish q)) :
    Alike R (Reader.ofSlots slots empty finish d) (Reader.ofSlots slots empty finish e) := by
  refine hrespects.alike_of_memberRewritten h hslot ?_ ?_ hfinish
  · refine Slot.option_default (a := some default) rfl ?_
    intro p hget
    rw [hnone p hget]
    exact hset p none (some default) hdefault.symm
  · intro d e hcode p
    exact Slot.option_alike (hcode.alike hdefault hspelling) (hset p)

end Codes

/-! ## Filters -/

namespace FilterRequest

/-- What a draft of a filter says. -/
def Parts.meaning (parts : Parts) : Option String × Option ScalarLiteral ×
    Except ArgumentError Operand × Except ArgumentError Connective :=
  (parts.property, parts.value, codeOr .equals Operand.ofCode parts.operand.join,
    codeOr .and Connective.ofCode parts.connective.join)

theorem respects : Respects slots {} Parts.meaning where
  nodup := by decide
  filled_empty := by decide
  filled_read := by
    simp only [slots, List.forall_mem_cons]
    simp [Slot.option, map_eq_ok_iff]
  read_alike := by
    simp only [slots, List.forall_mem_cons]
    refine ⟨?_, ?_, ?_, ?_, by simp⟩ <;>
    · intro d p q h
      refine Alike.map_self ?_ _
      simp_all [Parts.meaning]

theorem alike_ofParts (p q : Parts) (h : p.meaning = q.meaning) :
    Alike (fun r s => r.toFilter = s.toFilter) (ofParts p) (ofParts q) := by
  obtain ⟨property, value, operand, connective⟩ := p
  obtain ⟨property', value', operand', connective'⟩ := q
  simp only [Parts.meaning, Prod.mk.injEq] at h
  obtain ⟨rfl, rfl, hoperand, hconnective⟩ := h
  refine Alike.bind_self ?_ (required property)
  intro property
  refine Alike.bind_self ?_ (required value)
  intro value
  refine .ok ?_
  unfold toFilter
  simp only [hoperand, hconnective]

theorem alike_of_rewritten {d e : Document} (h : Rewritten d e) :
    Alike (fun r s => r.toFilter = s.toFilter) (reader d) (reader e) := by
  rcases h with h | h
  · refine respects.alike_of_code h rfl (Operand.ofCode_code .equals)
      Operand.ofCode_eq_of_sameCode ?_ ?_ alike_ofParts
    · intro p c c' hc
      simp [Parts.meaning, hc]
    · intro p hp
      simp [Parts.meaning, hp]
  · refine respects.alike_of_code h rfl (Connective.ofCode_code .and)
      Connective.ofCode_eq_of_sameCode ?_ ?_ alike_ofParts
    · intro p c c' hc
      simp [Parts.meaning, hc]
    · intro p hp
      simp [Parts.meaning, hp]

theorem alike_list {d e : Document} (h : ItemRewritten Rewritten d e) :
    Alike (fun rs ss => rs.mapM toFilter = ss.mapM toFilter) (Reader.list reader d)
      (Reader.list reader e) := by
  refine h.alike reader (fun _ _ => alike_of_rewritten) ?_
  intro before after r s hrs
  rw [List.mapM_append, List.mapM_append, mapM_cons_eq, mapM_cons_eq, hrs]

end FilterRequest

/-! ## Searches -/

namespace SearchRequest

/-- What a draft of a search says. -/
def Parts.meaning (parts : Parts) : Option String × List String ×
    Except ArgumentError Operand × Except ArgumentError Connective :=
  (parts.term, parts.properties.getD [], codeOr .contains Operand.ofCode parts.operand.join,
    codeOr .or Connective.ofCode parts.connective.join)

theorem respects : Respects slots {} Parts.meaning where
  nodup := by decide
  filled_empty := by decide
  filled_read := by
    simp only [slots, List.forall_mem_cons]
    simp [Slot.option, map_eq_ok_iff]
  read_alike := by
    simp only [slots, List.forall_mem_cons]
    refine ⟨?_, ?_, ?_, ?_, by simp⟩ <;>
    · intro d p q h
      refine Alike.map_self ?_ _
      simp_all [Parts.meaning]

/-- A search is made to look anywhere in a text, and for one property that has the term. -/
theorem toSearch_eq (r : SearchRequest) :
    r.toSearch = (Search.make r.term r.properties).bind fun s =>
      (codeOr .contains Operand.ofCode r.operand).bind fun operand =>
        (codeOr .or Connective.ofCode r.connective).map fun connective =>
          (s.withOperand operand).withConnective connective := by
  unfold toSearch Search.make
  split
  · split <;> rfl
  · rfl

theorem alike_ofParts (p q : Parts) (h : p.meaning = q.meaning) :
    Alike (fun r s => r.toSearch = s.toSearch) (ofParts p) (ofParts q) := by
  simp only [Parts.meaning, Prod.mk.injEq] at h
  obtain ⟨hterm, hproperties, hoperand, hconnective⟩ := h
  unfold ofParts
  rw [hterm, hproperties]
  refine Alike.map_self ?_ (required q.term)
  intro term
  simp only [toSearch_eq, hoperand, hconnective]

theorem alike_of_rewritten {d e : Document} (h : Rewritten d e) :
    Alike (fun r s => r.toSearch = s.toSearch) (reader d) (reader e) := by
  rcases h with h | h
  · refine respects.alike_of_code h rfl (Operand.ofCode_code .contains)
      Operand.ofCode_eq_of_sameCode ?_ ?_ alike_ofParts
    · intro p c c' hc
      simp [Parts.meaning, hc]
    · intro p hp
      simp [Parts.meaning, hp]
  · refine respects.alike_of_code h rfl (Connective.ofCode_code .or)
      Connective.ofCode_eq_of_sameCode ?_ ?_ alike_ofParts
    · intro p c c' hc
      simp [Parts.meaning, hc]
    · intro p hp
      simp [Parts.meaning, hp]

theorem alike_nullable {d e : Document} (h : Rewritten d e) :
    Alike (fun o o' => o.mapM toSearch = o'.mapM toSearch) (Reader.nullable reader d)
      (Reader.nullable reader e) := by
  refine nullable_alike h.ne_null (alike_of_rewritten h) ?_
  intro r s hrs
  show (some <$> r.toSearch) = (some <$> s.toSearch)
  rw [hrs]

end SearchRequest

/-! ## Sort directives and pages -/

namespace SortDirective

/-- What a draft of a directive says. -/
def Parts.meaning (parts : Parts) : Option String × Bool :=
  (parts.property, parts.ascending.getD true)

theorem respects : Respects slots {} Parts.meaning where
  nodup := by decide
  filled_empty := by decide
  filled_read := by
    simp only [slots, List.forall_mem_cons]
    simp [Slot.option, map_eq_ok_iff, -Bool.exists_bool, -Bool.forall_bool]
  read_alike := by
    simp only [slots, List.forall_mem_cons]
    refine ⟨?_, ?_, by simp⟩ <;>
    · intro d p q h
      refine Alike.map_self ?_ _
      simp_all [Parts.meaning]

theorem alike_ofParts (p q : Parts) (h : p.meaning = q.meaning) :
    Alike Eq (ofParts p) (ofParts q) := by
  simp only [Parts.meaning, Prod.mk.injEq] at h
  unfold ofParts
  rw [h.1, h.2]
  exact Alike.map_self (fun _ => rfl) (required q.property)

theorem alike_of_rewritten {d e : Document} (h : Rewritten d e) :
    Alike Eq (reader d) (reader e) := by
  refine respects.alike_of_memberRewritten h rfl ?_ nofun alike_ofParts
  refine Slot.option_default (a := true) rfl ?_
  intro p hp
  simp [Parts.meaning, hp]

theorem alike_list {d e : Document} (h : ItemRewritten Rewritten d e) :
    Alike Eq (Reader.list reader d) (Reader.list reader e) := by
  refine h.alike reader (fun _ _ => alike_of_rewritten) ?_
  intro before after r s hrs
  rw [hrs]

end SortDirective

namespace PageRequest

/-- What a draft of a page says. -/
def Parts.meaning (parts : Parts) : Int64 × Int64 := (parts.rows.getD 0, parts.page.getD 0)

theorem respects : Respects slots {} Parts.meaning where
  nodup := by decide
  filled_empty := by decide
  filled_read := by
    simp only [slots, List.forall_mem_cons]
    simp [Slot.option, map_eq_ok_iff]
  read_alike := by
    simp only [slots, List.forall_mem_cons]
    refine ⟨?_, ?_, by simp⟩ <;>
    · intro d p q h
      refine Alike.map_self ?_ _
      simp_all [Parts.meaning]

/-- The page of a draft is what it says. -/
theorem alike_meaning (p q : Parts) (h : p.meaning = q.meaning) :
    Alike Eq (.ok ⟨p.rows.getD 0, p.page.getD 0⟩ : Except Refusal PageRequest)
      (.ok ⟨q.rows.getD 0, q.page.getD 0⟩) := by
  simp only [Parts.meaning, Prod.mk.injEq] at h
  rw [h.1, h.2]
  exact .ok rfl

theorem alike_of_rewritten {d e : Document} (h : Rewritten d e) :
    Alike (fun o o' => o.getD zero = o'.getD zero) (Reader.nullable reader d)
      (Reader.nullable reader e) := by
  have hzero : Reader.int64 (.number (.ofInt 0)) = .ok 0 := Reader.int64_inverts.read_write 0
  cases h with
  | null =>
    have hpage : Reader.nullable reader zero.toDocument = .ok (some zero) :=
      Request.page_inverts.read_write (some zero)
    rw [hpage]
    exact .ok rfl
  | rows h =>
    refine nullable_alike h.ne_null ?_ (fun a b hab => hab)
    refine respects.alike_of_memberRewritten h rfl ?_ nofun alike_meaning
    refine Slot.option_default hzero ?_
    intro p hp
    simp [Parts.meaning, hp]
  | page h =>
    refine nullable_alike h.ne_null ?_ (fun a b hab => hab)
    refine respects.alike_of_memberRewritten h rfl ?_ nofun alike_meaning
    refine Slot.option_default hzero ?_
    intro p hp
    simp [Parts.meaning, hp]

end PageRequest

/-! ## Requests -/

namespace Request

/-- What a draft of a request says. -/
def Parts.meaning (parts : Parts) : Except ArgumentError (List Filter) ×
    Except ArgumentError (Option Search) × List SortDirective × PageRequest :=
  ((parts.filters.getD []).mapM FilterRequest.toFilter,
    parts.search.join.mapM SearchRequest.toSearch, parts.sorts.getD [],
    parts.page.join.getD PageRequest.zero)

theorem respects : Respects slots {} Parts.meaning where
  nodup := by decide
  filled_empty := by decide
  filled_read := by
    simp only [slots, List.forall_mem_cons]
    simp [Slot.option, map_eq_ok_iff]
  read_alike := by
    simp only [slots, List.forall_mem_cons]
    refine ⟨?_, ?_, ?_, ?_, by simp⟩ <;>
    · intro d p q h
      refine Alike.map_self ?_ _
      simp_all [Parts.meaning]

/-- The query of a request without a page is that of a request for the default page. -/
theorem toQuery_eq (r : Request) (settings : Settings) :
    r.toQuery settings = do
      let filters ← r.filters.mapM FilterRequest.toFilter
      let search ← r.search.mapM SearchRequest.toSearch
      let sorts ← r.sorts.mapM fun d => SortDirective.make d.property d.ascending
      let page := r.page.getD PageRequest.zero
      return Query.orderedBy
        { Query.empty settings with filters, search, page := .clamp settings page.rows page.page }
        sorts := by
  unfold toQuery
  cases r.page <;> rfl

theorem alike_meaning (p q : Parts) (h : p.meaning = q.meaning) :
    Alike (fun r s : Request => ∀ settings, r.toQuery settings = s.toQuery settings)
      (.ok ⟨p.filters.getD [], p.search.join, p.sorts.getD [], p.page.join⟩ :
        Except Refusal Request)
      (.ok ⟨q.filters.getD [], q.search.join, q.sorts.getD [], q.page.join⟩) := by
  simp only [Parts.meaning, Prod.mk.injEq] at h
  obtain ⟨hfilters, hsearch, hsorts, hpage⟩ := h
  refine .ok ?_
  intro settings
  rw [toQuery_eq, toQuery_eq]
  simp only [hfilters, hsearch, hsorts, hpage]

theorem alike_of_rewritten {d e : Document} (h : Rewritten d e) :
    Alike (fun r s => ∀ settings, r.toQuery settings = s.toQuery settings) (reader d)
      (reader e) := by
  cases h with
  | filters h =>
    refine respects.alike_of_memberRewritten h rfl ?_ ?_ alike_meaning
    · refine Slot.option_default (a := []) rfl ?_
      intro p hp
      simp [Parts.meaning, hp]
    · intro d e hway p
      refine Slot.option_alike (FilterRequest.alike_list hway) ?_
      intro rs ss hfilters
      simp [Parts.meaning, hfilters]
  | search h =>
    refine respects.alike_of_memberRewritten h rfl ?_ ?_ alike_meaning
    · refine Slot.option_default (a := none) rfl ?_
      intro p hp
      simp [Parts.meaning, hp]
    · intro d e hway p
      refine Slot.option_alike (SearchRequest.alike_nullable hway) ?_
      intro o o' hsearch
      simp [Parts.meaning, hsearch]
  | sorts h =>
    refine respects.alike_of_memberRewritten h rfl ?_ ?_ alike_meaning
    · refine Slot.option_default (a := []) rfl ?_
      intro p hp
      simp [Parts.meaning, hp]
    · intro d e hway p
      refine Slot.option_alike (SortDirective.alike_list hway) ?_
      intro rs ss hsorts
      simp [Parts.meaning, hsorts]
  | page h =>
    refine respects.alike_of_memberRewritten h rfl ?_ ?_ alike_meaning
    · refine Slot.option_default (page_inverts.read_write (some PageRequest.zero)) ?_
      intro p hp
      simp [Parts.meaning, hp]
    · intro d e hway p
      refine Slot.option_alike (PageRequest.alike_of_rewritten hway) ?_
      intro o o' hpage
      simp [Parts.meaning, hpage]

end Request

/-! ## Texts -/

namespace Query

/-- The query that a document asks for, which is all of a text or is followed by something else. -/
def ofDocument (settings : Settings) (d : Document) (whole : Bool) : Except QueryError Query := do
  let r ← ((Request.reader d).bind fun r =>
    if whole then .ok r else .error .malformed).mapError .payload
  (r.toQuery settings).mapError .argument

theorem ofText_eq (settings : Settings) (s : String) :
    ofText settings s = ofDocument settings (Document.ofText s).1 (Document.ofText s).2 := rfl

theorem ofDocument_eq_of_rewritten {d e : Document} (h : Request.Rewritten d e)
    (settings : Settings) (whole : Bool) :
    ofDocument settings d whole = ofDocument settings e whole := by
  unfold ofDocument
  have halike := Request.alike_of_rewritten h
  generalize Request.reader d = x at halike ⊢
  generalize Request.reader e = y at halike ⊢
  cases halike with
  | error cause => rfl
  | @ok r s hrs =>
    cases whole with
    | false => rfl
    | true =>
      show (r.toQuery settings).mapError _ = (s.toQuery settings).mapError _
      rw [hrs settings]

/-- Two texts ask for the same query, or are refused for the same fault, if the document of the one
is that of the other with any of its defaults written out or left out and any of its codes spelled
in another way. -/
theorem ofText_eq_of_rewritten {s t : String}
    (hwhole : (Document.ofText s).2 = (Document.ofText t).2)
    (h : Relation.EqvGen Request.Rewritten (Document.ofText s).1 (Document.ofText t).1)
    (settings : Settings) : ofText settings s = ofText settings t := by
  rw [ofText_eq, ofText_eq, hwhole]
  generalize (Document.ofText s).1 = d, (Document.ofText t).1 = e,
    (Document.ofText t).2 = whole at h ⊢
  induction h with
  | rel d e h => exact ofDocument_eq_of_rewritten h settings whole
  | refl d => rfl
  | symm d e _ ih => exact ih.symm
  | trans d e f _ _ ih ih' => exact ih.trans ih'

/-- A request with one filter, one sort directive and a page. -/
def sampleDocument (codes : List (String × Document)) (directive page : Document) : Document :=
  .ofMembers [
    ("filters", .array [
      .ofMembers ([("property", .ofString "Name"), ("value", .ofString "Ann")] ++ codes)]),
    ("sort", .array [directive]), ("pagination", page)]

/-- A request that leaves out what it can, and spells a code in its own way. -/
def terse : Document :=
  sampleDocument [("operand", .ofString " EQ")] (.array [.ofString "Age"]) .null

/-- The text of `terse`. -/
def terseText : String :=
  "\x7b\"filters\":[\x7b\"property\":\"Name\",\"value\":\"Ann\",\"operand\":\" EQ\"\x7d]," ++
    "\"sort\":[[\"Age\"]],\"pagination\":null\x7d"

/-- The same request with everything written out. -/
def explicit : Document :=
  sampleDocument [("operand", .ofString "eq"), ("operator", .ofString "and")]
    (.array [.ofString "Age", .bool true]) PageRequest.zero.toDocument

/-- The text of `explicit`. -/
def explicitText : String :=
  "\x7b\"filters\":[\x7b\"property\":\"Name\",\"value\":\"Ann\",\"operand\":\"eq\"," ++
    "\"operator\":\"and\"\x7d],\"sort\":[[\"Age\",true]]," ++
    "\"pagination\":\x7b\"rows\":0,\"page\":0\x7d\x7d"

theorem ofText_terseText : Document.ofText terseText = (terse, true) := by
  have hrender : terse.render = terseText := by decide +kernel
  rw [← hrender]
  exact Document.ofText_render rfl

theorem ofText_explicitText : Document.ofText explicitText = (explicit, true) := by
  have hrender : explicit.render = explicitText := by decide +kernel
  rw [← hrender]
  exact Document.ofText_render rfl

/-- One change after the other: the operand is spelled in small letters without a space, the
connective is written, the direction is written, the page is written. -/
theorem rewritten_explicit : Relation.EqvGen Request.Rewritten terse explicit := by
  have hoperand : Request.Rewritten terse
      (sampleDocument [("operand", .ofString "eq")] (.array [.ofString "Age"]) .null) :=
    .filters (.inPlace (.key [] _) (.inPlace (.item [] [])
      (.inl (.inPlace (.key [_, _] []) (.respelled (by decide))))))
  have hconnective (directive page : Document) :
      Request.Rewritten (sampleDocument [("operand", .ofString "eq")] directive page)
        (sampleDocument [("operand", .ofString "eq"), ("operator", .ofString "and")] directive
          page) :=
    .filters (.inPlace (.key [] _) (.inPlace (.item [] [])
      (.inr (.missing (.key [_, _, _] [] (by simp))))))
  have hdirection (codes : List (String × Document)) (page : Document) :
      Request.Rewritten (sampleDocument codes (.array [.ofString "Age"]) page)
        (sampleDocument codes (.array [.ofString "Age", .bool true]) page) :=
    .sorts (.inPlace (.key [_] _) (.inPlace (.item [] []) (.missing (.position rfl))))
  have hpage (codes : List (String × Document)) (directive : Document) :
      Request.Rewritten (sampleDocument codes directive .null)
        (sampleDocument codes directive PageRequest.zero.toDocument) :=
    .page (.inPlace (.key [_, _] []) .null)
  exact .trans _ _ _ (.rel _ _ hoperand) <| .trans _ _ _ (.rel _ _ (hconnective _ _)) <|
    .trans _ _ _ (.rel _ _ (hdirection _ _)) (.rel _ _ (hpage _ _))

theorem ofText_eq_of_rewritten_terse :
    terseText ≠ explicitText ∧
      (Document.ofText terseText).2 = (Document.ofText explicitText).2 ∧
      Relation.EqvGen Request.Rewritten (Document.ofText terseText).1
        (Document.ofText explicitText).1 ∧
      ∀ settings, ofText settings terseText = ofText settings explicitText := by
  have hwhole : (Document.ofText terseText).2 = (Document.ofText explicitText).2 := by
    rw [ofText_terseText, ofText_explicitText]
  have hrewritten : Relation.EqvGen Request.Rewritten (Document.ofText terseText).1
      (Document.ofText explicitText).1 := by
    rw [ofText_terseText, ofText_explicitText]
    exact rewritten_explicit
  exact ⟨by decide +kernel, hwhole, hrewritten, ofText_eq_of_rewritten hwhole hrewritten⟩

end Query

end RecordQuery
