import RecordQuery.Proofs.Json.Places
import RecordQuery.Proofs.Requests.RoundTrip

/-!
# What a filter compares with

A filter compares with a string, a number or a truth value. A request is read whole or not at all,
so one whose other parts can be read stands or falls with the value of a filter: it is accepted if
the value is a scalar, with the scalar as it is written in the place of the value, and refused
otherwise, whatever the value holds. One object counts as a scalar: the one that is marked as a
number.

Results:
* `ScalarLiteral.reader_eq_ok_iff`: what is read as a scalar.
* `Request.alike_of_value`: a request with one scalar and with another in the value of a filter.
* `Request.ofText_filterValue`: the text of a request stands or falls with the value of a filter.
* `Request.ofText_markedText`: an object that is accepted as a value.
-/

namespace RecordQuery

open Json

/-- A whole text is read as its document. -/
theorem Json.Reader.ofText_eq {α : Type} (read : Reader α) {s : String} {d : Document}
    (h : Document.ofText s = (d, true)) : read.ofText s = read d := by
  unfold Reader.ofText
  simp only [h, if_true]
  cases read d <;> rfl

/-! ## Scalars -/

/-- How a scalar literal is written: as a string, as a number or as a truth value; or as the object
that is marked as a number and has the spelling of one. -/
inductive ScalarLiteral.Written : Document → ScalarLiteral → Prop where
  | text (s : String) : Written (.text (some s)) (.text s)
  | number (n : Numeral) : Written (.number n) (.number n)
  | bool (b : Bool) : Written (.bool b) (.bool b)
  | marked {s : String} {n : Numeral} (h : Numeral.ofText? s = some n) :
      Written (.object [(some numberKey, .text (some s))]) (.number n)

namespace ScalarLiteral

/-- An array means an array. -/
theorem array_of_toJson? {levels : ℕ} {ds : List Document} {found : Json}
    (h : Document.toJson? levels (.array ds) = some found) : ∃ items, found = .array items := by
  cases levels with
  | zero => simp [Document.toJson?] at h
  | succ levels =>
    obtain ⟨items, -, hfound⟩ := Option.map_eq_some_iff.mp h
    exact ⟨items, hfound.symm⟩

/-- An object means a mapping, unless it is marked as a number. -/
theorem object_or_marked {levels : ℕ} {ms : List (Option String × Document)} {found : Json}
    (h : Document.toJson? levels (.object ms) = some found) :
    (∃ members, found = .object members) ∨
      ∃ s n, ms = [(some numberKey, .text (some s))] ∧ Numeral.ofText? s = some n ∧
        found = .number n := by
  cases levels with
  | zero => simp [Document.toJson?] at h
  | succ levels =>
    cases ms with
    | nil =>
      left
      exact ⟨[], by simpa [Document.toJson?] using h.symm⟩
    | cons m more =>
      obtain ⟨key, d⟩ := m
      rw [Document.toJson?] at h
      split at h
      · next hkey =>
        right
        unfold markedNumber? at h
        split at h
        · next s =>
          obtain ⟨n, hn, hfound⟩ := Option.map_eq_some_iff.mp h
          exact ⟨s, n, by rw [hkey], hn, hfound.symm⟩
        · cases h
      · left
        simp only [Option.bind_eq_bind, Option.bind_eq_some_iff] at h
        obtain ⟨key, -, value, -, members, -, hfound⟩ := h
        cases hfound
        exact ⟨_, rfl⟩

theorem written_of_reader {d : Document} {literal : ScalarLiteral} (h : reader d = .ok literal) :
    Written d literal := by
  unfold reader at h
  cases d with
  | null => cases h
  | bool b =>
    cases h
    exact .bool b
  | number n =>
    cases h
    exact .number n
  | text content =>
    cases content with
    | none => cases h
    | some s =>
      cases h
      exact .text s
  | array ds =>
    cases hfound : Document.toJson? levels (.array ds) with
    | none => simp [hfound] at h
    | some found =>
      obtain ⟨items, rfl⟩ := array_of_toJson? hfound
      simp [hfound] at h
  | object ms =>
    cases hfound : Document.toJson? levels (.object ms) with
    | none => simp [hfound] at h
    | some found =>
      rcases object_or_marked hfound with ⟨members, rfl⟩ | ⟨s, n, rfl, hn, rfl⟩
      · simp [hfound] at h
      · have hliteral : ScalarLiteral.number n = literal := by simpa [hfound] using h
        rw [← hliteral]
        exact .marked hn
  | broken => cases h

theorem reader_eq_ok_iff {d : Document} {literal : ScalarLiteral} :
    reader d = .ok literal ↔ Written d literal := by
  refine ⟨written_of_reader, ?_⟩
  intro h
  cases h with
  | text s => rfl
  | number n => rfl
  | bool b => rfl
  | @marked s n h =>
    have hfound : Document.toJson? levels (.object [(some numberKey, .text (some s))]) =
        some (.number n) := by
      show (Numeral.ofText? s).map Json.number = _
      rw [h]
      rfl
    unfold reader
    rw [hfound]

/-- A refused value is no JSON, or is reported as it was found. -/
theorem reader_eq_error {d : Document} (h : ∀ literal, ¬Written d literal) :
    ∃ cause, reader d = .error cause ∧ (d.toJson? levels = none ∧ cause = .malformed ∨
      ∃ found, d.toJson? levels = some found ∧ cause = .notScalar found) := by
  cases hread : reader d with
  | ok literal => exact absurd (reader_eq_ok_iff.mp hread) (h literal)
  | error cause =>
    refine ⟨cause, rfl, ?_⟩
    unfold reader at hread
    split at hread
    · cases hread
    · cases hread
    · cases hread
    · next found _ _ _ hfound =>
      cases hread
      exact .inr ⟨found, hfound, rfl⟩
    · next hfound =>
      cases hread
      exact .inl ⟨hfound, rfl⟩

end ScalarLiteral

/-! ## The value of a filter -/

namespace FilterRequest

/-- A filter that compares with something else. -/
def withValue (f : FilterRequest) (value : ScalarLiteral) : FilterRequest := { f with value }

/-- Two drafts that have a value, and are the same but for it. -/
def Parts.Revalued (literal : ScalarLiteral) (p q : Parts) : Prop :=
  p.value.isSome = true ∧ q = { p with value := some literal }

/-- Every other member is read alike into drafts with different values. -/
theorem keeps_revalued (literal : ScalarLiteral) :
    ∀ s ∈ slots, s.name ≠ "value" → s.Keeps (Parts.Revalued literal) := by
  simp only [slots, List.forall_mem_cons]
  refine ⟨?_, fun h => absurd rfl h, ?_, ?_, by simp⟩ <;>
  · intro _
    apply Slot.option_keeps
    · rintro p _ ⟨-, rfl⟩
      rfl
    · rintro p _ a ⟨hp, rfl⟩
      exact ⟨hp, rfl⟩

theorem alike_of_value {V : Document → Document} (hV : MemberPlace slots "value" V)
    {v₀ v : Document} {literal₀ literal : ScalarLiteral}
    (h₀ : ScalarLiteral.reader v₀ = .ok literal₀) (h : ScalarLiteral.reader v = .ok literal) :
    Alike (fun f₀ f => f = f₀.withValue literal) (reader (V v₀)) (reader (V v)) := by
  refine hV.alike rfl (by decide) (keeps_revalued literal) (.inr ?_) ?_ ?_
  · rintro p _ ⟨hp, rfl⟩
    exact ⟨hp, rfl⟩
  · intro p
    refine Slot.option_alike (R := fun a b => b = literal) ?_ ?_
    · rw [h₀, h]
      exact .ok rfl
    · rintro a _ rfl
      exact ⟨rfl, rfl⟩
  · rintro ⟨property, _ | value, operand, connective⟩ _ ⟨hp, rfl⟩
    · cases hp
    · cases property with
      | none => exact .error _
      | some property => exact .ok rfl

theorem list_alike_of_value {i : ℕ} {I V : Document → Document} (hI : ItemPlace i I)
    (hV : MemberPlace slots "value" V) {v₀ v : Document} {literal₀ literal : ScalarLiteral}
    (h₀ : ScalarLiteral.reader v₀ = .ok literal₀) (h : ScalarLiteral.reader v = .ok literal) :
    Alike (fun rs ss => i < List.length rs ∧ ss = rs.modify i fun r => r.withValue literal)
      (Reader.list reader (I (V v₀))) (Reader.list reader (I (V v))) := by
  refine hI.alike (alike_of_value hV h₀ h) ?_
  intro before after r s hlength hrs
  rw [hrs, ← hlength]
  refine ⟨by simp, ?_⟩
  simp [List.modify_eq_take_drop]

end FilterRequest

namespace Request

/-- A request of which one filter compares with something else. -/
def withValue (r : Request) (i : ℕ) (value : ScalarLiteral) : Request :=
  { r with filters := r.filters.modify i fun f => f.withValue value }

/-- Two drafts that have the filters, and are the same but for what one filter compares with. -/
def Parts.Revalued (i : ℕ) (literal : ScalarLiteral) (p q : Parts) : Prop :=
  ∃ fs, p.filters = some fs ∧ i < fs.length ∧
    q = { p with filters := some (fs.modify i fun f => f.withValue literal) }

theorem keeps_revalued (i : ℕ) (literal : ScalarLiteral) :
    ∀ s ∈ slots, s.name ≠ "filters" → s.Keeps (Parts.Revalued i literal) := by
  simp only [slots, List.forall_mem_cons]
  refine ⟨fun h => absurd rfl h, ?_, ?_, ?_, by simp⟩ <;>
  · intro _
    apply Slot.option_keeps
    · rintro p _ ⟨fs, -, -, rfl⟩
      rfl
    · rintro p _ a ⟨fs, hfs, hi, rfl⟩
      exact ⟨fs, hfs, hi, rfl⟩

/-- A request as a function of the value of its filter of a certain index. -/
inductive ValuePlace : ℕ → (Document → Document) → Prop where
  | intro {i : ℕ} {F I V : Document → Document} (hfilters : MemberPlace slots "filters" F)
      (hfilter : ItemPlace i I) (hvalue : MemberPlace FilterRequest.slots "value" V) :
      ValuePlace i fun v => F (I (V v))

variable {i : ℕ} {C : Document → Document} {v₀ v : Document} {r₀ : Request}

theorem alike_of_value (hC : ValuePlace i C) {literal₀ literal : ScalarLiteral}
    (h₀ : ScalarLiteral.reader v₀ = .ok literal₀) (h : ScalarLiteral.reader v = .ok literal) :
    Alike (fun r₀ r => i < r₀.filters.length ∧ r = r₀.withValue i literal) (reader (C v₀))
      (reader (C v)) := by
  obtain ⟨hfilters, hfilter, hvalue⟩ := hC
  refine hfilters.alike rfl (by decide) (keeps_revalued i literal) (.inr ?_) ?_ ?_
  · rintro p _ ⟨fs, hfs, -, rfl⟩
    exact ⟨by simp [Slot.option, hfs], rfl⟩
  · intro p
    refine Slot.option_alike (FilterRequest.list_alike_of_value hfilter hvalue h₀ h) ?_
    rintro fs _ ⟨hi, rfl⟩
    exact ⟨fs, rfl, hi, rfl⟩
  · rintro p _ ⟨fs, hfs, hi, rfl⟩
    refine .ok ?_
    rw [hfs]
    exact ⟨hi, rfl⟩

/-- A value that is not a scalar is the fault of the request. -/
theorem eq_error_of_value (hC : ValuePlace i C) (h₀ : reader (C v₀) = .ok r₀) {cause : Refusal}
    (h : ScalarLiteral.reader v = .error cause) : reader (C v) = .error cause := by
  obtain ⟨hfilters, hfilter, hvalue⟩ := hC
  obtain ⟨fs₀, hfs₀⟩ := hfilters.exists_read rfl h₀
  obtain ⟨f₀, hf₀⟩ := hfilter.exists_read hfs₀
  have hf := hvalue.eq_error rfl (Slot.option_error h) hf₀
  have hfs := hfilter.eq_error hf hfs₀
  exact hfilters.eq_error rfl (Slot.option_error hfs) h₀

theorem exists_literal (hC : ValuePlace i C) (h₀ : reader (C v₀) = .ok r₀) :
    ∃ literal₀, ScalarLiteral.reader v₀ = .ok literal₀ := by
  obtain ⟨hfilters, hfilter, hvalue⟩ := hC
  obtain ⟨fs₀, hfs₀⟩ := hfilters.exists_read rfl h₀
  obtain ⟨f₀, hf₀⟩ := hfilter.exists_read hfs₀
  exact hvalue.exists_read rfl hf₀

theorem reader_of_written (hC : ValuePlace i C) (h₀ : reader (C v₀) = .ok r₀)
    {literal : ScalarLiteral} (h : ScalarLiteral.Written v literal) :
    reader (C v) = .ok (r₀.withValue i literal) := by
  obtain ⟨literal₀, hliteral₀⟩ := exists_literal hC h₀
  have halike := alike_of_value hC hliteral₀ (ScalarLiteral.reader_eq_ok_iff.mpr h)
  rw [h₀] at halike
  generalize reader (C v) = result at halike
  cases halike with
  | ok h => rw [h.2]

theorem lt_length_of_place (hC : ValuePlace i C) (h₀ : reader (C v₀) = .ok r₀) :
    i < r₀.filters.length := by
  obtain ⟨literal₀, hliteral₀⟩ := exists_literal hC h₀
  have halike := alike_of_value hC hliteral₀ hliteral₀
  rw [h₀] at halike
  cases halike with
  | ok h => exact h.1

theorem getElem?_withValue (hi : i < r₀.filters.length) (literal : ScalarLiteral) :
    ((r₀.withValue i literal).filters.map fun f => f.value.toText)[i]? =
      some literal.toText := by
  rw [List.getElem?_map, withValue, List.getElem?_modify_eq, List.getElem?_eq_getElem hi]
  rfl

/-- A text with a document in the place of a value stands or falls with the value: where a request
has a scalar there, this one is accepted or refused for what the document is. -/
structure StandsWithValue (s : String) (v : Document) (r₀ : Request) (i : ℕ) : Prop where
  /-- There is a filter that has the value. -/
  lt_length : i < r₀.filters.length
  /-- The text is accepted exactly if the value is written as a scalar. -/
  accepted_iff : (∃ r, ofText s = .ok r) ↔ ∃ literal, ScalarLiteral.Written v literal
  /-- The filter then compares with the scalar as it is written, and nothing else depends on it. -/
  ofText_eq {literal : ScalarLiteral} (h : ScalarLiteral.Written v literal) :
    ofText s = .ok (r₀.withValue i literal)
  /-- A query that is made of it has a filter with the text of the scalar. -/
  value_eq {literal : ScalarLiteral} (h : ScalarLiteral.Written v literal) {settings : Settings}
    {q : Query} (hq : Query.ofText settings s = .ok q) :
    (q.filters[i]?).map Filter.value = some literal.toText
  /-- Otherwise the text is refused for the value, which is reported as it was found if it is JSON,
  and there is no query. -/
  refused (h : ∀ literal, ¬ScalarLiteral.Written v literal) :
    ∃ cause, ofText s = .error cause ∧
      (∀ settings, Query.ofText settings s = .error (.payload cause)) ∧
      (v.toJson? ScalarLiteral.levels = none ∧ cause = .malformed ∨
        ∃ found, v.toJson? ScalarLiteral.levels = some found ∧ cause = .notScalar found)

theorem value_of_toFilter {r : FilterRequest} {f : Filter} (h : r.toFilter = .ok f) :
    f.value = r.value.toText := by
  obtain ⟨operand, -, h⟩ := bind_eq_ok_iff.mp h
  obtain ⟨connective, -, h⟩ := bind_eq_ok_iff.mp h
  exact (Filter.make_eq_ok_iff.mp h).2.2.1

/-- The filters of a query compare with the texts of the values. -/
theorem map_value_of_toQuery {r : Request} {settings : Settings} {q : Query}
    (h : r.toQuery settings = .ok q) :
    q.filters.map Filter.value = r.filters.map fun f => f.value.toText := by
  unfold toQuery at h
  simp only [bind_eq_ok_iff] at h
  obtain ⟨filters, hfilters, search, -, sorts, -, hq⟩ := h
  have hfilters_eq : q.filters = filters := by
    cases hq
    cases sorts <;> rfl
  rw [mapM_eq_ok_iff] at hfilters
  symm
  rw [hfilters_eq, ← List.forall₂_eq_eq_eq, List.forall₂_map_left_iff, List.forall₂_map_right_iff]
  exact hfilters.imp fun _ _ h => (value_of_toFilter h).symm

theorem ofText_filterValue (hC : ValuePlace i C) (h₀ : reader (C v₀) = .ok r₀) {s : String}
    (hs : Document.ofText s = (C v, true)) : StandsWithValue s v r₀ i := by
  have hreader : ofText s = reader (C v) := Reader.ofText_eq reader hs
  constructor
  · exact lt_length_of_place hC h₀
  · constructor
    · rintro ⟨r, hr⟩
      rw [hreader] at hr
      obtain ⟨literal, hliteral⟩ := exists_literal hC hr
      exact ⟨literal, ScalarLiteral.reader_eq_ok_iff.mp hliteral⟩
    · rintro ⟨literal, hliteral⟩
      exact ⟨_, hreader.trans (reader_of_written hC h₀ hliteral)⟩
  · intro literal hliteral
    exact hreader.trans (reader_of_written hC h₀ hliteral)
  · intro literal hliteral settings q hq
    unfold Query.ofText at hq
    rw [hreader, reader_of_written hC h₀ hliteral] at hq
    rw [← List.getElem?_map, map_value_of_toQuery (mapError_eq_ok_iff.mp hq)]
    exact getElem?_withValue (lt_length_of_place hC h₀) literal
  · intro hnot
    obtain ⟨cause, hcause, hkind⟩ := ScalarLiteral.reader_eq_error hnot
    have herror : ofText s = .error cause := hreader.trans (eq_error_of_value hC h₀ hcause)
    refine ⟨cause, herror, ?_, hkind⟩
    intro settings
    unfold Query.ofText
    rw [herror]
    rfl

/-- A request with one filter that has this value. -/
def valueDocument (v : Document) : Document :=
  .ofMembers [("filters", .array [.ofMembers [("property", .ofString "Age"), ("value", v)]])]

/-- The text of `valueDocument` with a value that is null. -/
def nullText : String := "\x7b\"filters\":[\x7b\"property\":\"Age\",\"value\":null\x7d]\x7d"

/-- With a number in the place of the null there is a request, so the text is refused for the
null. -/
theorem ofText_filterValue_nullText :
    ValuePlace 0 valueDocument ∧
      reader (valueDocument (.bool true)) =
        .ok ⟨[⟨"Age", .bool true, none, none⟩], none, [], none⟩ ∧
      Document.ofText nullText = (valueDocument .null, true) ∧
      StandsWithValue nullText .null ⟨[⟨"Age", .bool true, none, none⟩], none, [], none⟩ 0 := by
  have hplace : ValuePlace 0 valueDocument :=
    .intro (.key [] []) (.item [] []) (.key [(some "property", .ofString "Age")] [])
  have hread : reader (valueDocument (.bool true)) =
      .ok ⟨[⟨"Age", .bool true, none, none⟩], none, [], none⟩ := rfl
  have hrender : (valueDocument .null).render = nullText := by decide +kernel
  have hs : Document.ofText nullText = (valueDocument .null, true) := by
    rw [← hrender]
    exact Document.ofText_render rfl
  exact ⟨hplace, hread, hs, ofText_filterValue hplace hread hs⟩

/-- The text of `valueDocument` with an object that is marked as a number. -/
def markedText : String :=
  "\x7b\"filters\":[\x7b\"property\":\"Age\"," ++
    "\"value\":\x7b\"$serde_json::private::Number\":\"12\"\x7d\x7d]\x7d"

/-- The value in `markedText` is an object, and is accepted as a number. -/
theorem ofText_markedText :
    (∃ ms, Document.ofText markedText = (valueDocument (.object ms), true)) ∧
      ofText markedText = .ok ⟨[⟨"Age", .number (.ofInt 12), none, none⟩], none, [], none⟩ := by
  constructor
  · have hrender :
        (valueDocument (.object [(some numberKey, .text (some "12"))])).render = markedText := by
      decide +kernel
    refine ⟨[(some numberKey, .text (some "12"))], ?_⟩
    rw [← hrender]
    exact Document.ofText_render rfl
  · have hsome : (ofText markedText).toOption =
        some ⟨[⟨"Age", .number (.ofInt 12), none, none⟩], none, [], none⟩ := by decide +kernel
    generalize ofText markedText = result at hsome
    cases result with
    | error e => cases hsome
    | ok r =>
      cases hsome
      rfl

end Request

end RecordQuery
