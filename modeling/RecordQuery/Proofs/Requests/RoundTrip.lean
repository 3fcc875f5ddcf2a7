import RecordQuery.Proofs.Json.ReadBack
import RecordQuery.Request.Reader

/-!
# Requests read back from their own text

Many texts stand for one request: members may be missing or null, structures may be arrays, members
under other names are passed over, strings may be escaped and numbers may spell their exponent in
several ways. A request is written in one way only, and that text stands for the same request.

Results:
* `Request.reader_inverts`: a written request is read as the request.
* `Request.ofText_text`: a request is read back from its own text.
* `Request.text_injective`: different requests have different texts.
* `Request.ofText_roundTrip`: writing what was read changes neither the request nor the query.
-/

namespace RecordQuery

open Json (Document Reader Slot Refusal)

theorem ScalarLiteral.reader_inverts : Reader.Inverts reader toDocument where
  read_write v := by cases v <;> rfl
  whole_write v := by cases v <;> rfl

/-! ## Codes -/

theorem all_isWhole_codeMember (name : String) (code : Option String) :
    (codeMember name code).all (·.2.isWhole) = true := by
  cases code <;> rfl

/-- An object that ends with the members of two codes has no broken part, if the members in front of
them have none. -/
theorem isWhole_ofMembers_codes {ms : List (String × Document)}
    (h : ms.all (·.2.isWhole) = true) (name name' : String) (code code' : Option String) :
    (Document.ofMembers (ms ++ codeMember name code ++ codeMember name' code')).isWhole = true := by
  rw [Document.isWhole_ofMembers, List.all_append, List.all_append, h, all_isWhole_codeMember,
    all_isWhole_codeMember]
  rfl

/-- After the members in front of it, the member of a code fills its place in the draft, if there is
a code. -/
theorem readMembers_codeMember {δ : Type} {slots : List (Slot δ)} {empty draft : δ}
    {ms : List (String × Document)} {get : δ → Option (Option String)}
    {set : δ → Option String → δ} (name : String)
    (hms : Json.readMembers slots (ms.map fun m => (some m.1, m.2)) empty = .ok draft)
    (hslot : slots.find? (·.name == name) = some (.option name get set (.nullable .text)))
    (hopen : get draft = none) (code : Option String) :
    Json.readMembers slots ((ms ++ codeMember name code).map fun m => (some m.1, m.2)) empty =
      .ok (code.elim draft fun s => set draft (some s)) := by
  rw [List.map_append, Json.readMembers_append, hms]
  show Json.readMembers slots _ draft = _
  cases code with
  | none => rfl
  | some s =>
    show Json.readMembers slots [(some name, .ofString s)] draft = _
    simp only [Json.readMembers, hslot, Slot.option, hopen]
    rfl

/-! ## The parts of a request -/

theorem FilterRequest.reader_inverts : Reader.Inverts reader toDocument where
  read_write r := by
    have hfirst : Json.readMembers slots
        ([("property", .ofString r.property), ("value", r.value.toDocument)].map
          fun m => (some m.1, m.2)) {} =
        .ok { property := some r.property, value := some r.value } := by
      show ((ScalarLiteral.reader r.value.toDocument).map _).bind _ = _
      rw [ScalarLiteral.reader_inverts.read_write]
      rfl
    have hoperand := readMembers_codeMember "operand" hfirst rfl rfl r.operand
    have hall := readMembers_codeMember "operator" hoperand rfl (by cases r.operand <;> rfl)
      r.connective
    show (Json.readMembers slots _ {}).bind ofParts = _
    rw [hall]
    obtain ⟨property, value, _ | operand, _ | connective⟩ := r <;> rfl
  whole_write r := by
    apply isWhole_ofMembers_codes
    simp only [List.all_cons, List.all_nil, Reader.text_inverts.whole_write,
      ScalarLiteral.reader_inverts.whole_write, Bool.and_self]

theorem SearchRequest.reader_inverts : Reader.Inverts reader toDocument where
  read_write r := by
    have hfirst : Json.readMembers slots
        ([("term", .ofString r.term), ("properties", .array (r.properties.map .ofString))].map
          fun m => (some m.1, m.2)) {} =
        .ok { term := some r.term, properties := some r.properties } := by
      show ((Reader.list .text (.array (r.properties.map .ofString))).map _).bind _ = _
      rw [Reader.text_inverts.list.read_write]
      rfl
    have hoperand := readMembers_codeMember "operand" hfirst rfl rfl r.operand
    have hall := readMembers_codeMember "operator" hoperand rfl (by cases r.operand <;> rfl)
      r.connective
    show (Json.readMembers slots _ {}).bind ofParts = _
    rw [hall]
    obtain ⟨term, properties, _ | operand, _ | connective⟩ := r <;> rfl
  whole_write r := by
    apply isWhole_ofMembers_codes
    simp only [List.all_cons, List.all_nil, Reader.text_inverts.whole_write,
      Reader.text_inverts.list.whole_write, Bool.and_self]

theorem SortDirective.reader_inverts : Reader.Inverts reader toDocument where
  read_write _ := rfl
  whole_write _ := rfl

theorem PageRequest.reader_inverts : Reader.Inverts reader toDocument where
  read_write p := by
    show ((Reader.int64 _).map _ |>.bind _ |>.bind _) = _
    rw [Reader.int64_inverts.read_write p.rows]
    show ((Reader.int64 _).map _ |>.bind _ |>.bind _) = _
    rw [Reader.int64_inverts.read_write p.page]
    rfl
  whole_write _ := rfl

namespace Request

theorem search_inverts :
    Reader.Inverts (.nullable SearchRequest.reader) (.ofOption SearchRequest.toDocument) :=
  SearchRequest.reader_inverts.nullable fun _ h => by cases h

theorem page_inverts :
    Reader.Inverts (.nullable PageRequest.reader) (.ofOption PageRequest.toDocument) :=
  PageRequest.reader_inverts.nullable fun _ h => by cases h

theorem reader_inverts : Reader.Inverts reader toDocument where
  read_write r := by
    -- one member after the other, in the order in which they are written
    show ((Reader.list FilterRequest.reader _).map _ |>.bind _ |>.bind _) = _
    rw [FilterRequest.reader_inverts.list.read_write r.filters]
    show ((Reader.nullable SearchRequest.reader _).map _ |>.bind _ |>.bind _) = _
    rw [search_inverts.read_write r.search]
    show ((Reader.list SortDirective.reader _).map _ |>.bind _ |>.bind _) = _
    rw [SortDirective.reader_inverts.list.read_write r.sorts]
    show ((Reader.nullable PageRequest.reader _).map _ |>.bind _ |>.bind _) = _
    rw [page_inverts.read_write r.page]
    rfl
  whole_write r := by
    rw [toDocument, Document.isWhole_ofMembers]
    simp only [List.all_cons, List.all_nil, FilterRequest.reader_inverts.list.whole_write,
      search_inverts.whole_write, SortDirective.reader_inverts.list.whole_write,
      page_inverts.whole_write, Bool.and_self]

/-! ## Whole texts -/

theorem ofText_text (r : Request) : ofText r.text = .ok r :=
  reader_inverts.ofText_render r

theorem text_injective {r r' : Request} (h : r.text = r'.text) : r = r' := by
  have hr := ofText_text r
  rw [h, ofText_text r'] at hr
  cases hr
  rfl

/-- The text that is written for an accepted text stands for the same request; what is read from it
is written as the same text again; and both texts ask for the same query, under all settings. -/
theorem ofText_roundTrip {s : String} {r : Request} (h : ofText s = .ok r) :
    ofText r.text = .ok r ∧ (ofText r.text).map text = .ok r.text ∧
      ∀ settings, Query.ofText settings r.text = Query.ofText settings s := by
  have hback : ofText r.text = .ok r := ofText_text r
  refine ⟨hback, ?_, ?_⟩
  · rw [hback]
    rfl
  · intro settings
    rw [Query.ofText, Query.ofText, hback, h]

/-- A text with an array for a structure, a member that no request has, an escaped letter and a
capital exponent. -/
def looseText : String :=
  "\x7b\"sort\": [[\"Age\"]], \"note\": [1, null], \"filters\": [\x7b\"value\": 2.50E3, " ++
    "\"property\": \"Sal\\u0061ry\", \"operand\": null, \"operator\": \"OR\"\x7d]\x7d"

/-- The request that `looseText` stands for. -/
def looseRequest : Request where
  filters := [⟨"Salary", .number ⟨false, 2, [5, 0], some ⟨false, 3, []⟩⟩, none, some "OR"⟩]
  sorts := [⟨"Age", true⟩]

theorem ofText_roundTrip_looseText :
    ofText looseText = .ok looseRequest ∧ looseRequest.text ≠ looseText ∧
      ofText looseRequest.text = .ok looseRequest ∧
      (ofText looseRequest.text).map text = .ok looseRequest.text ∧
      ∀ settings, Query.ofText settings looseRequest.text = Query.ofText settings looseText := by
  have hread : ofText looseText = .ok looseRequest := by
    have hsome : (ofText looseText).toOption = some looseRequest := by decide +kernel
    generalize ofText looseText = result at hsome
    cases result with
    | error e => cases hsome
    | ok r =>
      cases hsome
      rfl
  have hdiffers : looseRequest.text ≠ looseText := by decide +kernel
  exact ⟨hread, hdiffers, ofText_roundTrip hread⟩

end Request

end RecordQuery
