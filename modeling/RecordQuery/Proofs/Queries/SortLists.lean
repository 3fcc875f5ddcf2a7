import RecordQuery.Proofs.Records.NormalForm
import RecordQuery.Proofs.Text.LetterCase

/-!
# Lists of sort directives as text

A list of sort directives is written with commas in between, each directive as its property, a colon
and a word for the direction. It is read back from every such text, whatever the case of the words,
and with any blanks around the parts and any blank parts among them. The direction follows the last
colon of a part, so properties may have colons in them and blanks at their end; what they cannot
have is a comma or a blank at their start, and whatever is read has neither.

Results:
* `ofText_eq_ok_iff`, `listOfText_eq_ok_iff`: the texts that are read, and what they say.
* `listOfText_of_listSpelledBy`: a list is read back from every text that spells it.
* `listable_of_listOfText`: what is read of any text can be written.
* `listOfText_roundTrip`: both together.
-/

namespace RecordQuery.SortDirective

variable {d : SortDirective} {ds : List SortDirective} {ascending : Bool} {s part word : String}
  {parts : List String}

/-! ## Spelling -/

/-- A directive that can stand in a list: its property is not blank, has no comma in it, and does
not start with white space. -/
structure Listable (d : SortDirective) : Prop where
  not_blank : Text.isBlankText d.property = false
  comma : ',' ∉ d.property.toList
  start : ¬Text.StartsBlank d.property.toList

/-- The words for a direction. -/
def words (ascending : Bool) : List String :=
  if ascending then ["asc", "ascending"] else ["desc", "descending"]

/-- A word for a direction, in any case. -/
def IsWord (ascending : Bool) (word : String) : Prop :=
  ∃ w ∈ words ascending, Text.eqIgnoringCase word w = true

/-- A text that spells a directive: its property, a colon and a word for its direction, with blanks
around the whole. -/
def SpelledBy (d : SortDirective) (part : String) : Prop :=
  ∃ word, IsWord d.ascending word ∧ Path.Pads (d.property ++ ":" ++ word) part

/-- Parts that spell directives, one each, with blank parts anywhere among them. -/
inductive ListSpelledBy : List SortDirective → List String → Prop where
  | nil : ListSpelledBy [] []
  | blank {ds : List SortDirective} {part : String} {parts : List String}
      (hpart : Text.isBlankText part = true) (hmore : ListSpelledBy ds parts) :
      ListSpelledBy ds (part :: parts)
  | directive {d : SortDirective} {ds : List SortDirective} {part : String} {parts : List String}
      (hpart : d.SpelledBy part) (hmore : ListSpelledBy ds parts) :
      ListSpelledBy (d :: ds) (part :: parts)

/-- The shortest spelling of a directive. -/
def text (d : SortDirective) : String :=
  d.property ++ ":" ++ if d.ascending then "asc" else "desc"

theorem spelledBy_text (d : SortDirective) : d.SpelledBy d.text := by
  refine ⟨if d.ascending then "asc" else "desc", ?_, [], [], nofun, nofun, ?_⟩
  · cases d.ascending with
    | true => exact ⟨"asc", by decide, by decide⟩
    | false => exact ⟨"desc", by decide, by decide⟩
  · rw [List.nil_append, List.append_nil, String.ofList_toList]
    rfl

theorem listSpelledBy_map_text (ds : List SortDirective) : ListSpelledBy ds (ds.map text) := by
  induction ds with
  | nil => exact .nil
  | cons d ds ih => exact .directive d.spelledBy_text ih

/-! ## Words for directions -/

namespace IsWord

/-- In any case, a word for a direction has letters of ASCII only. -/
theorem isLower_toLower (h : IsWord ascending word) {c : Char} (hc : c ∈ word.toList) :
    c.toLower.isLower = true := by
  have hletters : ∀ b, ∀ w ∈ words b, (w.toList.map Char.toLower).all Char.isLower = true := by
    decide
  obtain ⟨w, hw, hword⟩ := h
  refine List.all_eq_true.mp (hletters ascending w hw) _ ?_
  rw [← Text.eqIgnoringCase_iff.mp hword]
  exact List.mem_map_of_mem hc

theorem comma_not_mem (h : IsWord ascending word) : ',' ∉ word.toList :=
  fun hmem => absurd (h.isLower_toLower hmem) (by decide)

theorem colon_not_mem (h : IsWord ascending word) : ':' ∉ word.toList :=
  fun hmem => absurd (h.isLower_toLower hmem) (by decide)

theorem noBlank (h : IsWord ascending word) : Text.NoBlank word.toList := by
  have hwords : ∀ b, ∀ w ∈ words b, Text.NoBlank (w.toList.map Char.toLower) := by decide
  obtain ⟨w, hw, hword⟩ := h
  refine Text.noBlank_of_map_toLower ?_
  rw [Text.eqIgnoringCase_iff.mp hword]
  exact hwords ascending w hw

theorem lowercase_mem (h : IsWord ascending word) : Text.lowercase word ∈ words ascending := by
  have hwords : ∀ b, ∀ w ∈ words b, Text.lowercase w ∈ words b := by decide
  obtain ⟨w, hw, hword⟩ := h
  rw [Text.lowercase_eq_of_eqIgnoringCase hword]
  exact hwords ascending w hw

end IsWord

/-! ## One directive -/

/-- What a part of a list says without blanks around it: a property alone, to be ordered from the
least value on, or a property, a colon and a word for the direction, which has no colon in it. -/
inductive PartSays : String → SortDirective → Prop where
  | alone {property : String} (hblank : Text.isBlankText property = false)
      (hcolon : ':' ∉ property.toList) : PartSays property ⟨property, true⟩
  | directed {property direction : String} {ascending : Bool}
      (hblank : Text.isBlankText property = false) (hcolon : ':' ∉ direction.toList)
      (hword : Text.lowercase direction ∈ words ascending) :
      PartSays (property ++ ":" ++ direction) ⟨property, ascending⟩

theorem toList_spelling (property word : String) :
    (property ++ ":" ++ word).toList = property.toList ++ ':' :: word.toList := by
  simp

theorem make_eq_ok_iff {property : String} :
    make property ascending = .ok d ↔
      Text.isBlankText property = false ∧ d = ⟨property, ascending⟩ := by
  unfold make
  cases Text.isBlankText property with
  | true => simp
  | false => simp [eq_comm]

theorem ascendingOfText_eq_ok_iff :
    ascendingOfText word = .ok ascending ↔ Text.lowercase word ∈ words ascending := by
  unfold ascendingOfText
  generalize Text.lowercase word = lower
  by_cases hasc : lower = "asc" ∨ lower = "ascending"
  · rcases hasc with rfl | rfl <;> cases ascending <;> decide
  · by_cases hdesc : lower = "desc" ∨ lower = "descending"
    · rcases hdesc with rfl | rfl <;> cases ascending <;> decide
    · cases ascending <;> simp [words, hasc, hdesc]

theorem ofText_eq_ok_iff : ofText s = .ok d ↔ PartSays s d := by
  constructor
  · intro h
    unfold ofText at h
    split at h
    · next property direction hsplit =>
      obtain ⟨b, hdirection, hmake⟩ := bind_eq_ok_iff.mp h
      obtain ⟨hblank, rfl⟩ := make_eq_ok_iff.mp hmake
      obtain ⟨htext, hcolon⟩ := Text.splitLast?_eq_some_iff.mp hsplit
      have hs : s = String.ofList property ++ ":" ++ String.ofList direction := by
        rw [← String.toList_inj, toList_spelling, htext, String.toList_ofList,
          String.toList_ofList]
      rw [hs]
      refine .directed hblank ?_ (ascendingOfText_eq_ok_iff.mp hdirection)
      rwa [String.toList_ofList]
    · next hsplit =>
      obtain ⟨hblank, rfl⟩ := make_eq_ok_iff.mp h
      exact .alone hblank (Text.splitLast?_eq_none_iff.mp hsplit)
  · intro h
    unfold ofText
    cases h with
    | alone hblank hcolon =>
      rw [Text.splitLast?_eq_none_iff.mpr hcolon]
      exact make_eq_ok_iff.mpr ⟨hblank, rfl⟩
    | directed hblank hcolon hword =>
      rw [Text.splitLast?_eq_some_iff.mpr ⟨toList_spelling _ _, hcolon⟩]
      simp only [String.ofList_toList, ascendingOfText_eq_ok_iff.mpr hword]
      exact make_eq_ok_iff.mpr ⟨hblank, rfl⟩

/-- The direction is looked for after the last colon, and a word for a direction has none. -/
theorem Listable.partSays (hd : d.Listable) (hword : IsWord d.ascending word) :
    PartSays (d.property ++ ":" ++ word) d :=
  .directed hd.not_blank hword.colon_not_mem hword.lowercase_mem

/-- Without the blanks around it, a spelled directive is property, colon and word. -/
theorem trim_spelling (hd : d.Listable) (hword : IsWord d.ascending word)
    (hpad : Path.Pads (d.property ++ ":" ++ word) part) :
    Text.trim part = d.property ++ ":" ++ word := by
  obtain ⟨front, back, hfront, hback, rfl⟩ := hpad
  rw [Text.trim_pad hfront hback, Text.trim_eq_self_iff, toList_spelling]
  constructor
  · have hstart := hd.start
    cases hproperty : d.property.toList with
    | nil =>
      have hblank := hd.not_blank
      rw [Text.isBlankText, hproperty] at hblank
      cases hblank
    | cons c cs =>
      rw [hproperty, Text.startsBlank_cons_iff] at hstart
      rwa [List.cons_append, Text.startsBlank_cons_iff]
  · rw [Text.endsBlank_append_iff (List.cons_ne_nil _ _)]
    exact (Text.noBlank_cons_iff.mpr ⟨by decide, hword.noBlank⟩).not_endsBlank

theorem comma_not_mem_of_spelledBy (hd : d.Listable) (h : d.SpelledBy part) :
    ',' ∉ part.toList := by
  obtain ⟨word, hword, front, back, hfront, hback, rfl⟩ := h
  have hblank : Text.isBlank ',' ≠ true := by decide
  rw [String.toList_ofList, toList_spelling]
  simp only [List.mem_append, List.mem_cons, not_or]
  exact ⟨⟨mt (hfront ',') hblank, hd.comma, by decide, hword.comma_not_mem⟩, mt (hback ',') hblank⟩

/-! ## Lists -/

/-- The parts of a list that are read: those that are not blank, without the blanks around them. -/
def readParts (parts : List String) : List String := (parts.map Text.trim).filter (· ≠ "")

/-- A text says which directives to sort by: one in each part between commas that is not blank. -/
def Says (s : String) (ds : List SortDirective) : Prop :=
  List.Forall₂ PartSays (readParts ((s.toList.splitOn ',').map String.ofList)) ds

theorem listOfText_eq (s : String) :
    listOfText s = (readParts ((s.toList.splitOn ',').map String.ofList)).mapM ofText := by
  rw [listOfText, readParts, List.map_map]
  rfl

theorem listOfText_eq_ok_iff : listOfText s = .ok ds ↔ Says s ds := by
  rw [listOfText_eq, mapM_eq_ok_iff, Says]
  simp only [ofText_eq_ok_iff]

/-- Between commas, the parts that were put there are found again. -/
theorem readParts_intercalate (hcomma : ∀ part ∈ parts, ',' ∉ part.toList) :
    readParts (((",".intercalate parts).toList.splitOn ',').map String.ofList) =
      readParts parts := by
  cases parts with
  | nil => rfl
  | cons part parts =>
    have hcomma' : ∀ cs ∈ (part :: parts).map String.toList, ',' ∉ cs :=
      List.forall_mem_map.mpr hcomma
    have htext : (",".intercalate (part :: parts)).toList =
        [','].intercalate ((part :: parts).map String.toList) := String.toList_intercalate
    rw [htext, List.splitOn_intercalate ',' hcomma' (List.cons_ne_nil _ _), List.map_map]
    exact congrArg readParts (List.map_id'' (fun _ => String.ofList_toList) _)

theorem readParts_cons_of_isBlankText (h : Text.isBlankText part = true) :
    readParts (part :: parts) = readParts parts := by
  rw [readParts, List.map_cons, Text.trim_eq_empty_iff.mpr h]
  rfl

theorem readParts_cons_of_trim_eq (h : Text.trim part = s) (hs : s ≠ "") :
    readParts (part :: parts) = s :: readParts parts := by
  have hkept : decide (s ≠ "") = true := decide_eq_true hs
  rw [readParts, List.map_cons, h, List.filter_cons, if_pos hkept, readParts]

/-- Part by part, the directives that are spelled are said. -/
theorem ListSpelledBy.forall₂ (h : ListSpelledBy ds parts) (hds : ∀ d ∈ ds, d.Listable) :
    List.Forall₂ PartSays (readParts parts) ds := by
  induction h with
  | nil => exact .nil
  | blank hpart _ ih =>
    rw [readParts_cons_of_isBlankText hpart]
    exact ih hds
  | @directive d ds part parts hpart _ ih =>
    obtain ⟨hd, hds⟩ := List.forall_mem_cons.mp hds
    obtain ⟨word, hword, hpad⟩ := hpart
    have hne : d.property ++ ":" ++ word ≠ "" := by
      intro hempty
      have hnil := congrArg String.toList hempty
      rw [toList_spelling] at hnil
      exact List.append_ne_nil_of_right_ne_nil _ (List.cons_ne_nil _ _) hnil
    rw [readParts_cons_of_trim_eq (trim_spelling hd hword hpad) hne]
    exact .cons (hd.partSays hword) (ih hds)

theorem ListSpelledBy.comma_not_mem (h : ListSpelledBy ds parts) (hds : ∀ d ∈ ds, d.Listable) :
    ∀ part ∈ parts, ',' ∉ part.toList := by
  induction h with
  | nil => exact nofun
  | blank hpart _ ih =>
    refine List.forall_mem_cons.mpr ⟨fun hmem => ?_, ih hds⟩
    exact absurd (List.all_eq_true.mp hpart ',' hmem) (by decide)
  | directive hpart _ ih =>
    obtain ⟨hd, hds⟩ := List.forall_mem_cons.mp hds
    exact List.forall_mem_cons.mpr ⟨comma_not_mem_of_spelledBy hd hpart, ih hds⟩

/-- A list is read back from every text that spells it. -/
theorem listOfText_of_listSpelledBy (hds : ∀ d ∈ ds, d.Listable) (h : ListSpelledBy ds parts) :
    listOfText (",".intercalate parts) = .ok ds := by
  rw [listOfText_eq_ok_iff, Says, readParts_intercalate (h.comma_not_mem hds)]
  exact h.forall₂ hds

/-! ## What is read can be written -/

theorem PartSays.not_blank (h : PartSays s d) : Text.isBlankText d.property = false := by
  cases h <;> assumption

/-- A part names its property at its beginning. -/
theorem PartSays.property_prefix (h : PartSays s d) : d.property.toList <+: s.toList := by
  cases h with
  | alone _ _ => exact List.prefix_refl _
  | directed _ _ _ =>
    rw [toList_spelling]
    exact List.prefix_append _ _

/-- A text that starts like a trimmed one does not start with white space. -/
theorem not_startsBlank_of_prefix {cs : List Char} (h : cs <+: (Text.trim s).toList) :
    ¬Text.StartsBlank cs := by
  rintro ⟨c, hhead, hblank⟩
  refine (Text.trim_eq_self_iff.mp (Text.trim_trim s)).1 ⟨c, ?_, hblank⟩
  obtain ⟨rest, hrest⟩ := h
  rw [← hrest, List.head?_append, hhead]
  rfl

theorem listable_of_listOfText (h : listOfText s = .ok ds) : ∀ d ∈ ds, d.Listable := by
  intro d hd
  rw [listOfText_eq] at h
  obtain ⟨read, hread, hof⟩ := (mem_mapM_iff h).mp hd
  obtain ⟨part, hpart, rfl⟩ := List.mem_map.mp (List.mem_filter.mp hread).1
  obtain ⟨cs, hcs, rfl⟩ := List.mem_map.mp hpart
  have hmeans := ofText_eq_ok_iff.mp hof
  have hbegins := hmeans.property_prefix
  refine ⟨hmeans.not_blank, fun hcomma => ?_, not_startsBlank_of_prefix hbegins⟩
  have hmem := Text.mem_of_mem_trim (hbegins.subset hcomma)
  rw [String.toList_ofList] at hmem
  exact Path.not_mem_of_mem_splitOn cs hcs hmem

/-- A list of directives whose properties can stand in one is read back from every text that spells
it, and there are such texts. What is read of any text is such a list, and so is read back from
every text that spells it again. -/
theorem listOfText_roundTrip (ds : List SortDirective) :
    ListSpelledBy ds (ds.map text) ∧
      ((∀ d ∈ ds, d.Listable) →
        ∀ parts, ListSpelledBy ds parts → listOfText (",".intercalate parts) = .ok ds) ∧
      ∀ s, listOfText s = .ok ds →
        (∀ d ∈ ds, d.Listable) ∧
          ∀ parts, ListSpelledBy ds parts → listOfText (",".intercalate parts) = .ok ds := by
  refine ⟨listSpelledBy_map_text ds, fun hds _ h => listOfText_of_listSpelledBy hds h, ?_⟩
  intro s hs
  have hds := listable_of_listOfText hs
  exact ⟨hds, fun _ h => listOfText_of_listSpelledBy hds h⟩

/-- A property with a colon in it and a blank at its end, words in mixed case, two blank parts. -/
theorem listOfText_roundTrip_colons :
    let ds : List SortDirective := [⟨"Team:Name ", true⟩, ⟨"Höhe", false⟩]
    (∀ d ∈ ds, d.Listable) ∧ ListSpelledBy ds [" Team:Name :ASCending\t", " ", "", "Höhe:DESC"] ∧
      listOfText " Team:Name :ASCending\t, ,,Höhe:DESC" = .ok ds ∧
      listOfText "Team:Name :asc,Höhe:desc" = .ok ds := by
  intro ds
  have hds : ∀ d ∈ ds, d.Listable := by
    have hstart : ∀ d ∈ ds, d.property.toList.head?.any Text.isBlank = false := by decide
    intro d hd
    refine ⟨?_, ?_, fun ⟨c, hhead, hblank⟩ => ?_⟩
    · revert d
      decide
    · revert d
      decide
    · have hfirst := hstart d hd
      rw [hhead, Option.any_some, hblank] at hfirst
      cases hfirst
  have hparts : ListSpelledBy ds [" Team:Name :ASCending\t", " ", "", "Höhe:DESC"] := by
    refine .directive ⟨"ASCending", ⟨"ascending", by decide, by decide⟩, [' '], ['\t'], ?_, ?_, rfl⟩
      (.blank (by decide) (.blank (by decide) (.directive
        ⟨"DESC", ⟨"desc", by decide, by decide⟩, [], [], nofun, nofun, rfl⟩ .nil))) <;>
      exact List.forall_mem_singleton.mpr (by decide)
  have hjoined : ",".intercalate [" Team:Name :ASCending\t", " ", "", "Höhe:DESC"] =
      " Team:Name :ASCending\t, ,,Höhe:DESC" := by decide +kernel
  have hshort : ",".intercalate (ds.map text) = "Team:Name :asc,Höhe:desc" := by decide +kernel
  obtain ⟨htext, hread, -⟩ := listOfText_roundTrip ds
  refine ⟨hds, hparts, ?_, ?_⟩
  · rw [← hjoined]
    exact hread hds _ hparts
  · rw [← hshort]
    exact hread hds _ htext

end RecordQuery.SortDirective
