import RecordQuery.Plan.Predicate
import RecordQuery.Plan.Projection
import RecordQuery.Plan.SortPlan
import RecordQuery.Proofs.Records.Refusal
import RecordQuery.Proofs.Records.WellTyped
import RecordQuery.Proofs.Text.WhiteSpace

/-!
# Resolved paths are normal forms

The text of a resolved path is the path as the schemas spell it, and is resolved to the same path
again. Where no two members of a schema on the way differ in case only, the path is resolved from
any text that spells its names in other letters or with blanks around them, so all of these texts
make the same filters, sort keys and columns.

Results:
* `resolve_eq_ok_iff_resolves`: what it takes to resolve a path, segment by segment.
* `Resolves.canonical`, `Resolves.respell`: the names of a path lead to the end of it, and so do
  other spellings of its segments.
* `respells_pad`: letters in another case and blanks around segments give another spelling.
* `resolve_normal`: resolved paths are normal forms.
-/

namespace RecordQuery

variable {κ : Type} {catalog : Catalog κ} {schema owner : Schema κ}

/-! ## Lookup without regard to case -/

namespace Schema

variable {name : String} {m : Member κ}

/-- No two members differ in the case of ASCII letters only. -/
def CaseDistinct (s : Schema κ) : Prop :=
  ∀ a ∈ s.members, ∀ b ∈ s.members, Text.eqIgnoringCase a.name b.name = true → a = b

theorem find?_eq_some_iff : owner.find? name = some m ↔
    owner.members.find? (·.name == name) = some m ∨
      owner.members.find? (·.name == name) = none ∧
        owner.members.find? (Text.eqIgnoringCase ·.name name) = some m := by
  rw [find?, Option.orElse_apply, Option.orElse_eq_or, Option.or_eq_some_iff]

theorem eqIgnoringCase_of_find? (h : owner.find? name = some m) :
    Text.eqIgnoringCase m.name name = true := by
  rcases find?_eq_some_iff.mp h with hexact | ⟨-, hcase⟩
  · have hname : m.name = name := by simpa using List.find?_some hexact
    rw [hname]
    exact Text.eqIgnoringCase_refl name
  · simpa using List.find?_some hcase

/-- Where names differ in more than case, a member is found by its name in any case. -/
theorem CaseDistinct.find?_eq (h : owner.CaseDistinct) (hm : m ∈ owner.members)
    (hname : Text.eqIgnoringCase m.name name = true) : owner.find? name = some m := by
  cases hfind : owner.find? name with
  | none =>
    rw [find?, Option.orElse_apply, Option.orElse_eq_or, Option.or_eq_none_iff] at hfind
    exact absurd hname (List.find?_eq_none.mp hfind.2 m hm)
  | some x =>
    have hx := Text.eqIgnoringCase_symm (eqIgnoringCase_of_find? hfind)
    rw [h m hm x (mem_of_find? hfind) (Text.eqIgnoringCase_trans hname hx)]

end Schema

namespace Path

variable {path path' segment next : String} {segments segments' more : List String}
  {p q : Path (MemberType κ)}

/-! ## One segment -/

/-- A segment names a member, if blanks around it do not count. -/
structure Names (owner : Schema κ) (segment : String) (m : Member κ) : Prop where
  trim_ne : Text.trim segment ≠ ""
  find : owner.find? (Text.trim segment) = some m

/-- Two segments spell the same, but for the case of ASCII letters and the blanks around them. -/
def SameName (segment segment' : String) : Prop :=
  Text.eqIgnoringCase (Text.trim segment) (Text.trim segment') = true

namespace Names

variable {m : Member κ}

theorem mem (h : Names owner segment m) : m ∈ owner.members :=
  Schema.mem_of_find? h.find

theorem eqIgnoringCase (h : Names owner segment m) :
    Text.eqIgnoringCase m.name (Text.trim segment) = true :=
  Schema.eqIgnoringCase_of_find? h.find

/-- A member that a segment names is named by its own name. -/
theorem canonical (h : Names owner segment m) : Names owner m.name m := by
  have htrim : Text.trim m.name = m.name :=
    Text.trim_eq_self_of_eqIgnoringCase h.eqIgnoringCase (Text.trim_trim segment)
  constructor
  · rw [htrim]
    intro hempty
    have hname := Text.eqIgnoringCase_symm h.eqIgnoringCase
    rw [hempty] at hname
    exact h.trim_ne (Text.eq_empty_of_eqIgnoringCase hname)
  · rw [htrim]
    exact Schema.find?_of_mem h.mem

/-- Other spellings of a segment name the same member. -/
theorem respell (h : Names owner segment m) (hdistinct : owner.CaseDistinct) {segment' : String}
    (hsame : SameName segment segment') : Names owner segment' m where
  trim_ne hempty := by
    rw [SameName, hempty] at hsame
    exact h.trim_ne (Text.eq_empty_of_eqIgnoringCase hsame)
  find := hdistinct.find?_eq h.mem (Text.eqIgnoringCase_trans h.eqIgnoringCase hsame)

end Names

theorem memberAt_eq_ok_iff_names {m : Member κ} :
    memberAt path owner segment = .ok m ↔ Names owner segment m :=
  memberAt_eq_ok_iff.trans ⟨fun h => ⟨h.1, h.2⟩, fun h => ⟨h.trim_ne, h.find⟩⟩

/-! ## Segment by segment -/

/-- Segments that lead to the end of a path: each names a member, and each but the last a nested
record. -/
inductive Resolves (catalog : Catalog κ) :
    Schema κ → List String → Path (MemberType κ) → Prop where
  | member {owner : Schema κ} {segment : String} {m : Member κ} (hm : Names owner segment m) :
      Resolves catalog owner [segment] ⟨[], m.name, m.type⟩
  | nested {owner : Schema κ} {segment : String} {more : List String} {m : Member κ} {ref : κ}
      {q : Path (MemberType κ)} (hm : Names owner segment m) (href : m.type = .object ref)
      (hmore : Resolves catalog (catalog ref) more q) :
      Resolves catalog owner (segment :: more) (q.under m.name)

theorem Resolves.ne_nil (h : Resolves catalog owner segments p) : segments ≠ [] := by
  cases h <;> exact List.cons_ne_nil _ _

theorem resolveFrom_eq_ok_iff_resolves :
    resolveFrom catalog path owner segment more = .ok p ↔
      Resolves catalog owner (segment :: more) p := by
  induction more generalizing owner segment p with
  | nil =>
    simp only [resolveFrom_nil_eq_ok_iff, memberAt_eq_ok_iff_names]
    constructor
    · rintro ⟨m, hm, rfl⟩
      exact .member hm
    · intro h
      cases h with
      | member hm => exact ⟨_, hm, rfl⟩
      | nested _ _ hmore => exact absurd rfl hmore.ne_nil
  | cons next more ih =>
    simp only [resolveFrom_cons_eq_ok_iff, memberAt_eq_ok_iff_names, ih]
    constructor
    · rintro ⟨m, ref, q, hm, href, hq, rfl⟩
      exact .nested hm href hq
    · intro h
      cases h with
      | nested hm href hmore => exact ⟨_, _, _, hm, href, hmore, rfl⟩

/-- A path is resolved exactly if its segments lead to the end of it. -/
theorem resolve_eq_ok_iff_resolves :
    resolve catalog schema path = .ok p ↔ Resolves catalog schema (split path) p := by
  rw [resolve_eq_ok_iff]
  constructor
  · rintro ⟨-, segment, more, hsplit, hp⟩
    rw [hsplit]
    exact resolveFrom_eq_ok_iff_resolves.mp hp
  · intro h
    obtain ⟨segment, more, hsplit⟩ := List.exists_cons_of_ne_nil (split_ne_nil path)
    refine ⟨?_, segment, more, hsplit, resolveFrom_eq_ok_iff_resolves.mpr (hsplit ▸ h)⟩
    -- A blank path is one segment, and that has no name.
    by_contra hblank
    rw [Bool.not_eq_false] at hblank
    rw [split_of_isBlankText hblank] at h
    have hnameless := Text.trim_eq_empty_iff.mpr hblank
    cases h with
    | member hm => exact hm.trim_ne hnameless
    | nested hm _ _ => exact hm.trim_ne hnameless

/-- The names of a path are those that its segments spell. -/
theorem Resolves.exists_segment (h : Resolves catalog owner segments p) :
    ∀ name ∈ p.segments, ∃ segment ∈ segments,
      Text.eqIgnoringCase name (Text.trim segment) = true := by
  induction h with
  | @member owner segment m hm =>
    exact List.forall_mem_singleton.mpr ⟨segment, List.mem_singleton_self _, hm.eqIgnoringCase⟩
  | @nested owner segment more m _ _ hm _ _ ih =>
    refine List.forall_mem_cons.mpr ⟨⟨segment, List.mem_cons_self, hm.eqIgnoringCase⟩, ?_⟩
    intro name hname
    obtain ⟨segment', hmem, hspelled⟩ := ih name hname
    exact ⟨segment', List.mem_cons_of_mem _ hmem, hspelled⟩

/-- The names of a path lead to the end of it. -/
theorem Resolves.canonical (h : Resolves catalog owner segments p) :
    Resolves catalog owner p.segments p := by
  induction h with
  | member hm => exact .member hm.canonical
  | nested hm href _ ih => exact .nested hm.canonical href ih

/-- The schemas on the way along names of nested records. -/
inductive Visited (catalog : Catalog κ) : Schema κ → List String → Schema κ → Prop where
  | here {owner : Schema κ} {names : List String} : Visited catalog owner names owner
  | nested {owner target : Schema κ} {names : List String} {m : Member κ} {ref : κ}
      (hm : m ∈ owner.members) (href : m.type = .object ref)
      (hmore : Visited catalog (catalog ref) names target) :
      Visited catalog owner (m.name :: names) target

/-- Other spellings of the segments lead to the end of the same path. -/
theorem Resolves.respell (h : Resolves catalog owner segments p)
    (hdistinct : ∀ target, Visited catalog owner p.parents target → target.CaseDistinct)
    (hsame : List.Forall₂ SameName segments segments') : Resolves catalog owner segments' p := by
  induction h generalizing segments' with
  | member hm =>
    cases hsame with
    | cons hfirst hnil =>
      cases hnil
      exact .member (hm.respell (hdistinct _ .here) hfirst)
  | nested hm href _ ih =>
    cases hsame with
    | cons hfirst hrest =>
      refine .nested (hm.respell (hdistinct _ .here) hfirst) href (ih ?_ hrest)
      exact fun target hvisited => hdistinct target (.nested hm.mem href hvisited)

/-! ## Texts and their segments -/

/-- Segments without points are those of the text with points between them. -/
theorem split_intercalate (hnil : segments ≠ [])
    (hpoint : ∀ segment ∈ segments, '.' ∉ segment.toList) :
    split (".".intercalate segments) = segments := by
  have hpoint' : ∀ cs ∈ segments.map String.toList, '.' ∉ cs := List.forall_mem_map.mpr hpoint
  have hnil' : segments.map String.toList ≠ [] := mt List.map_eq_nil_iff.mp hnil
  have htext : (".".intercalate segments).toList = ['.'].intercalate (segments.map String.toList) :=
    String.toList_intercalate
  rw [split, htext, List.splitOn_intercalate '.' hpoint' hnil', List.map_map]
  exact List.map_id'' (fun _ => String.ofList_toList) segments

/-- What stands between separators has no separator in it. -/
theorem not_mem_of_mem_splitOn {sep : Char} {cs : List Char} :
    ∀ part ∈ cs.splitOn sep, sep ∉ part := by
  induction cs with
  | nil => simp
  | cons c cs ih =>
    rw [List.splitOn_cons_eq_if_modifyHead]
    split
    · exact List.forall_mem_cons.mpr ⟨List.not_mem_nil, ih⟩
    · next hc =>
      cases hsplit : cs.splitOn sep with
      | nil => exact absurd hsplit (List.splitOn_ne_nil _ _)
      | cons first rest =>
        rw [hsplit, List.forall_mem_cons] at ih
        refine List.forall_mem_cons.mpr ⟨?_, ih.2⟩
        rw [List.mem_cons, not_or]
        exact ⟨fun heq => hc (beq_iff_eq.mpr heq.symm), ih.1⟩

theorem point_not_mem_of_mem_split (h : segment ∈ split path) : '.' ∉ segment.toList := by
  obtain ⟨cs, hcs, rfl⟩ := List.mem_map.mp h
  rw [String.toList_ofList]
  exact not_mem_of_mem_splitOn cs hcs

/-- Letters change their case segment by segment. -/
theorem splitOn_map_toLower (cs : List Char) :
    (cs.map Char.toLower).splitOn '.' = (cs.splitOn '.').map (List.map Char.toLower) := by
  induction cs with
  | nil => rfl
  | cons c cs ih =>
    rw [List.map_cons, List.splitOn_cons_eq_if_modifyHead, List.splitOn_cons_eq_if_modifyHead, ih]
    by_cases hc : c = '.'
    · rw [if_pos (beq_iff_eq.mpr hc), if_pos (beq_iff_eq.mpr (Text.toLower_eq_point_iff.mpr hc))]
      rfl
    · rw [if_neg (mt beq_iff_eq.mp hc),
        if_neg (mt beq_iff_eq.mp (mt Text.toLower_eq_point_iff.mp hc))]
      cases cs.splitOn '.' <;> rfl

/-- Two texts spell the same path, but for the case of ASCII letters and the blanks around
segments. -/
def Respells (path path' : String) : Prop := List.Forall₂ SameName (split path) (split path')

/-- Changing the case of letters gives another spelling. -/
theorem respells_of_eqIgnoringCase (h : Text.eqIgnoringCase path path' = true) :
    Respells path path' := by
  have hlower : (path.toList.splitOn '.').map (List.map Char.toLower) =
      (path'.toList.splitOn '.').map (List.map Char.toLower) := by
    rw [← splitOn_map_toLower, ← splitOn_map_toLower, Text.eqIgnoringCase_iff.mp h]
  rw [← List.forall₂_eq_eq_eq, List.forall₂_map_left_iff, List.forall₂_map_right_iff] at hlower
  rw [Respells, split, split, List.forall₂_map_left_iff, List.forall₂_map_right_iff]
  refine hlower.imp fun cs cs' hcs => Text.eqIgnoringCase_trim (Text.eqIgnoringCase_iff.mpr ?_)
  rw [String.toList_ofList, String.toList_ofList, hcs]

/-- A segment with blanks around it. -/
def Pads (segment padded : String) : Prop :=
  ∃ front back : List Char, (∀ c ∈ front, Text.isBlank c = true) ∧
    (∀ c ∈ back, Text.isBlank c = true) ∧
    padded = String.ofList (front ++ segment.toList ++ back)

theorem Pads.sameName {padded : String} (h : Pads segment padded) : SameName segment padded := by
  obtain ⟨front, back, hfront, hback, rfl⟩ := h
  rw [SameName, Text.trim_pad hfront hback]
  exact Text.eqIgnoringCase_refl _

theorem Pads.point_not_mem {padded : String} (h : Pads segment padded)
    (hpoint : '.' ∉ segment.toList) : '.' ∉ padded.toList := by
  obtain ⟨front, back, hfront, hback, rfl⟩ := h
  have hblank : Text.isBlank '.' ≠ true := by decide
  rw [String.toList_ofList, List.mem_append, List.mem_append, not_or, not_or]
  exact ⟨⟨mt (hfront '.') hblank, hpoint⟩, mt (hback '.') hblank⟩

theorem sameNames_trans {as bs cs : List String} (h : List.Forall₂ SameName as bs)
    (h' : List.Forall₂ SameName bs cs) : List.Forall₂ SameName as cs := by
  induction h generalizing cs with
  | nil => exact h'
  | cons hab _ ih =>
    cases h' with
    | cons hbc hrest => exact .cons (Text.eqIgnoringCase_trans hab hbc) (ih hrest)

/-- Changing the case of letters and then putting blanks around segments gives another spelling. -/
theorem respells_pad (hcase : Text.eqIgnoringCase path path' = true)
    (hpad : List.Forall₂ Pads (split path') segments) :
    Respells path (".".intercalate segments) := by
  have hnil : segments ≠ [] := by
    rintro rfl
    exact split_ne_nil path' (List.forall₂_nil_right_iff.mp hpad)
  have hplain : ∀ segment ∈ split path', '.' ∉ segment.toList :=
    fun _ => point_not_mem_of_mem_split
  have hboth := (List.forall₂_and_left _ _).mpr ⟨hplain, hpad⟩
  have hpoints : List.Forall₂ (fun padded segment => '.' ∉ padded.toList ∧ Pads segment padded)
      segments (split path') :=
    (hboth.imp fun _ _ h => ⟨h.2.point_not_mem h.1, h.2⟩).flip
  rw [Respells, split_intercalate hnil ((List.forall₂_and_left _ _).mp hpoints).1]
  exact sameNames_trans (respells_of_eqIgnoringCase hcase) (hpad.imp fun _ _ h => h.sameName)

/-! ## Normal forms -/

/-- A resolved path is resolved from its own text. -/
theorem resolve_text (h : resolve catalog schema path = .ok p) :
    resolve catalog schema p.text = .ok p := by
  rw [resolve_eq_ok_iff_resolves] at h ⊢
  have hpoint : ∀ name ∈ p.segments, '.' ∉ name.toList := by
    intro name hname
    obtain ⟨segment, hsegment, hspelled⟩ := h.exists_segment name hname
    refine Text.point_not_mem_of_eqIgnoringCase hspelled fun hmem => ?_
    exact point_not_mem_of_mem_split hsegment (Text.mem_of_mem_trim hmem)
  -- No name has a point in it, so the text falls apart into the names again.
  rw [text, split_intercalate h.canonical.ne_nil hpoint]
  exact h.canonical

/-- Two texts make the same filters, sort keys and columns. -/
structure CompileAlike (catalog : Catalog κ) (schema : Schema κ) (path path' : String) : Prop where
  filter : ∀ f f' : Filter, f.property = path → f'.property = path' → f'.operand = f.operand →
    f'.value = f.value →
      Comparison.ofFilter catalog schema f' = Comparison.ofFilter catalog schema f
  sortKey : ∀ ascending, SortKey.ofDirective catalog schema ⟨path', ascending⟩ =
    SortKey.ofDirective catalog schema ⟨path, ascending⟩
  column : Projection.column catalog schema path' = Projection.column catalog schema path

theorem compileAlike_of_resolve
    (h : resolve catalog schema path' = resolve catalog schema path) :
    CompileAlike catalog schema path path' where
  filter := by
    rintro f f' rfl rfl hoperand hvalue
    rw [Comparison.ofFilter, Comparison.ofFilter, h, hoperand, hvalue]
  sortKey ascending := by
    rw [SortKey.ofDirective, SortKey.ofDirective, h]
  column := by
    rw [Projection.column, Projection.column, h]

/-- A resolved path is resolved from its own text, and where no two members of a schema on the way
differ in case only, from every other spelling of the text that it was resolved from. -/
theorem resolve_normal (h : resolve catalog schema path = .ok p) :
    resolve catalog schema p.text = .ok p ∧
    ((∀ target, Visited catalog schema p.parents target → target.CaseDistinct) →
      ∀ path', Respells path path' →
        resolve catalog schema path' = .ok p ∧ CompileAlike catalog schema path path') := by
  refine ⟨resolve_text h, fun hdistinct path' hrespells => ?_⟩
  have hsame : resolve catalog schema path' = .ok p := by
    rw [resolve_eq_ok_iff_resolves] at h ⊢
    exact h.respell hdistinct hrespells
  exact ⟨hsame, compileAlike_of_resolve (hsame.trans h.symm)⟩

/-- From a person, only persons are visited, and their members differ in more than case. -/
theorem caseDistinct_person {owner target : Schema Unit} {names : List String}
    (h : Visited Person.catalog owner names target) (howner : owner = Person.schema) :
    target.CaseDistinct := by
  induction h with
  | here =>
    rw [howner]
    show ∀ a ∈ Person.schema.members, ∀ b ∈ Person.schema.members, _ → a = b
    decide
  | nested _ _ _ ih => exact ih rfl

theorem resolve_managerName :
    let p : Path (MemberType Unit) := ⟨["Manager"], "Name", .scalar .text⟩
    resolve Person.catalog Person.schema "manager.name" = .ok p ∧
      resolve Person.catalog Person.schema "Manager.Name" = .ok p ∧
      resolve Person.catalog Person.schema " MANAGER .\tnAME" = .ok p ∧
      CompileAlike Person.catalog Person.schema "manager.name" " MANAGER .\tnAME" := by
  intro p
  have h : resolve Person.catalog Person.schema "manager.name" = .ok p := rfl
  have hsplit : split "MANAGER.nAME" = ["MANAGER", "nAME"] := by decide +kernel
  have hpad : List.Forall₂ Pads (split "MANAGER.nAME") [" MANAGER ", "\tnAME"] := by
    rw [hsplit]
    refine .cons ⟨[' '], [' '], ?_, ?_, rfl⟩ (.cons ⟨['\t'], [], ?_, nofun, rfl⟩ .nil) <;>
      exact List.forall_mem_singleton.mpr (by decide)
  have hcase : Text.eqIgnoringCase "manager.name" "MANAGER.nAME" = true := by decide
  have hjoined : ".".intercalate [" MANAGER ", "\tnAME"] = " MANAGER .\tnAME" := by decide +kernel
  have hrespells := respells_pad hcase hpad
  rw [hjoined] at hrespells
  have htext : p.text = "Manager.Name" := by decide +kernel
  obtain ⟨hnormal, hother⟩ := resolve_normal h
  obtain ⟨hrespelled, halike⟩ :=
    hother (fun _ hvisited => caseDistinct_person hvisited rfl) _ hrespells
  exact ⟨h, htext ▸ hnormal, hrespelled, halike⟩

end Path

end RecordQuery
