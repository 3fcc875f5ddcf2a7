import RecordQuery.Proofs.Filters.LeftToRight
import RecordQuery.Proofs.Filters.TypeSoundness
import RecordQuery.Proofs.Queries.Agreement
import RecordQuery.Proofs.Records.SameMembers

/-!
# What a search asks for

A search stands for filters that are joined one by one to what the filters of the query make up. As
all of them have the connective of the search, this comes to a group: any of the listed properties
has the term, or all of them have it. The group does not depend on how often, in which order or in
which spelling the properties are listed, only on the members that they lead to.

Results:
* `holds_foldl_extend_or`, `holds_foldl_extend_and`: conditions that are all joined in one way.
* `mem_conditions_iff`: the conditions of a search are the matches of its term.
* `holds_search`: the meaning of a search.
-/

namespace RecordQuery

/-! ## Conditions joined in one way -/

namespace Predicate

variable {p : Predicate} {r : Record} {conditions more : List (Connective × Comparison)}

theorem holds_foldl_extend_or (h : ∀ c ∈ more, c.1 = .or) :
    (more.foldl extend p).holds r = true ↔
      p.holds r = true ∨ ∃ c ∈ more, c.2.holds r = true := by
  induction more generalizing p with
  | nil => simp
  | cons c more ih =>
    obtain ⟨hc, hmore⟩ := List.forall_mem_cons.mp h
    rw [List.foldl_cons, ih hmore, holds_extend, hc, List.exists_mem_cons_iff, ← or_assoc]
    exact or_congr_left Bool.or_eq_true_iff

theorem holds_foldl_extend_and (h : ∀ c ∈ more, c.1 = .and) :
    (more.foldl extend p).holds r = true ↔
      p.holds r = true ∧ ∀ c ∈ more, c.2.holds r = true := by
  induction more generalizing p with
  | nil => simp
  | cons c more ih =>
    obtain ⟨hc, hmore⟩ := List.forall_mem_cons.mp h
    rw [List.foldl_cons, ih hmore, holds_extend, hc, List.forall_mem_cons, ← and_assoc]
    exact and_congr_left' Bool.and_eq_true_iff

/-- Without a predicate before them, the first condition takes its place. -/
theorem holds_ofConditions_or (hne : conditions ≠ []) (h : ∀ c ∈ conditions, c.1 = .or) :
    (ofConditions conditions).holds r = true ↔ ∃ c ∈ conditions, c.2.holds r = true := by
  cases conditions with
  | nil => exact absurd rfl hne
  | cons c more =>
    rw [List.exists_mem_cons_iff]
    exact holds_foldl_extend_or (List.forall_mem_cons.mp h).2

theorem holds_ofConditions_and (h : ∀ c ∈ conditions, c.1 = .and) :
    (ofConditions conditions).holds r = true ↔ ∀ c ∈ conditions, c.2.holds r = true := by
  cases conditions with
  | nil => simp [ofConditions, holds]
  | cons c more =>
    rw [List.forall_mem_cons]
    exact holds_foldl_extend_and (List.forall_mem_cons.mp h).2

end Predicate

/-! ## The filters of a search -/

theorem Search.mem_expand_iff {s : Search} {f : Filter} :
    f ∈ s.expand ↔ f.property ∈ s.properties ∧ f.operand = s.operand ∧ f.value = s.term ∧
      f.connective = s.connective := by
  unfold expand
  rw [List.mem_map]
  constructor
  · rintro ⟨⟨property, h⟩, -, rfl⟩
    exact ⟨h, rfl, rfl, rfl⟩
  · obtain ⟨property, operand, value, connective, named, value_ne⟩ := f
    rintro ⟨h, rfl, rfl, rfl⟩
    exact ⟨⟨property, h⟩, List.mem_attach _ _, rfl⟩

namespace SearchParts

variable {κ : Type} {catalog : Catalog κ} {schema : Schema κ} {parts : SearchParts} {s : Search}
  {f : Filter} {property : String} {c c' : Comparison} {more : List (Connective × Comparison)}
  {r : Record}

/-- A search can be made from its parts if it has them all, with each property once. -/
theorem make_eq_ok_iff : parts.make = .ok s ↔
    s.term = parts.term ∧ s.properties = parts.properties.eraseDups ∧
      s.operand = parts.operand ∧ s.connective = parts.connective := by
  unfold make Search.make
  constructor
  · intro h
    split at h
    · split at h
      · cases h
        exact ⟨rfl, rfl, rfl, rfl⟩
      · cases h
    · cases h
  · rintro ⟨hterm, hproperties, hoperand, hconnective⟩
    have hne : parts.term ≠ "" := hterm ▸ s.term_ne
    have hnamed : ∀ property ∈ parts.properties, Text.isBlankText property = false := by
      intro property hproperty
      refine s.named property ?_
      rw [hproperties]
      exact List.mem_eraseDups.mpr hproperty
    rw [dif_pos hne, dif_pos hnamed]
    exact congrArg Except.ok (Search.ext hterm.symm hproperties.symm hoperand.symm hconnective.symm)

theorem mem_expand_iff (hs : parts.make = .ok s) :
    f ∈ s.expand ↔ f.property ∈ parts.properties ∧ f.operand = parts.operand ∧
      f.value = parts.term ∧ f.connective = parts.connective := by
  obtain ⟨hterm, hproperties, hoperand, hconnective⟩ := make_eq_ok_iff.mp hs
  rw [Search.mem_expand_iff, hterm, hproperties, hoperand, hconnective, List.mem_eraseDups]

theorem exists_mem_expand (hs : parts.make = .ok s) (hproperty : property ∈ parts.properties) :
    ∃ f ∈ s.expand, f.property = property := by
  rw [← List.mem_map, s.map_property_expand, (make_eq_ok_iff.mp hs).2.1]
  exact List.mem_eraseDups.mpr hproperty

/-! ## Matches of the term -/

/-- The comparison of a property with the term of a search. -/
def Match (catalog : Catalog κ) (schema : Schema κ) (parts : SearchParts) (property : String)
    (c : Comparison) : Prop :=
  ∃ path t literal, Path.resolve catalog schema property = .ok path ∧ path.type = .scalar t ∧
    parts.operand ∈ t.category.operands ∧ t.ofLiteral? parts.term = some literal ∧
    c = ⟨path.withType t, parts.operand, literal⟩

/-- Whether a record has the term of a search in a property. -/
def Finds (catalog : Catalog κ) (schema : Schema κ) (parts : SearchParts) (property : String)
    (r : Record) : Prop :=
  ∃ c, parts.Match catalog schema property c ∧ c.holds r = true

theorem Match.unique (h : parts.Match catalog schema property c)
    (h' : parts.Match catalog schema property c') : c = c' := by
  obtain ⟨path, t, literal, hpath, ht, -, hliteral, rfl⟩ := h
  obtain ⟨path', t', literal', hpath', ht', -, hliteral', rfl⟩ := h'
  obtain rfl : path = path' := Except.ok.inj (hpath.symm.trans hpath')
  obtain rfl : t = t' := MemberType.scalar.inj (ht.symm.trans ht')
  obtain rfl : literal = literal' := Option.some.inj (hliteral.symm.trans hliteral')
  rfl

/-- A match hangs on the member that the property leads to, not on its spelling. -/
theorem match_iff_of_resolve {property' : String}
    (h : Path.resolve catalog schema property' = Path.resolve catalog schema property) :
    parts.Match catalog schema property' c ↔ parts.Match catalog schema property c := by
  unfold Match
  rw [h]

/-- The filters of a search are compiled to the matches of its term. -/
theorem conditionOf_eq_ok_iff_match (hs : parts.make = .ok s) (hf : f ∈ s.expand)
    {condition : Connective × Comparison} :
    Predicate.conditionOf catalog schema f = .ok condition ↔
      condition.1 = parts.connective ∧
        parts.Match catalog schema f.property condition.2 := by
  obtain ⟨-, hoperand, hvalue, hconnective⟩ := (mem_expand_iff hs).mp hf
  rw [Predicate.conditionOf_eq_ok_iff, Comparison.ofFilter_eq_ok_iff, hoperand, hvalue, hconnective]
  rfl

theorem exists_mapM_expand_iff (hs : parts.make = .ok s) :
    (∃ more, s.expand.mapM (Predicate.conditionOf catalog schema) = .ok more) ↔
      ∀ property ∈ parts.properties, ∃ c, parts.Match catalog schema property c := by
  rw [exists_mapM_eq_ok_iff]
  constructor
  · intro h property hproperty
    obtain ⟨f, hf, rfl⟩ := exists_mem_expand hs hproperty
    obtain ⟨condition, hcondition⟩ := h f hf
    exact ⟨condition.2, ((conditionOf_eq_ok_iff_match hs hf).mp hcondition).2⟩
  · intro h f hf
    obtain ⟨c, hc⟩ := h f.property ((mem_expand_iff hs).mp hf).1
    exact ⟨(parts.connective, c), (conditionOf_eq_ok_iff_match hs hf).mpr ⟨rfl, hc⟩⟩

section Conditions

variable (hs : parts.make = .ok s)
  (hmore : s.expand.mapM (Predicate.conditionOf catalog schema) = .ok more)

include hs hmore

/-- The conditions of a search are the matches of its term. -/
theorem mem_conditions_iff {condition : Connective × Comparison} :
    condition ∈ more ↔ condition.1 = parts.connective ∧
      ∃ property ∈ parts.properties, parts.Match catalog schema property condition.2 := by
  rw [mem_mapM_iff hmore]
  constructor
  · rintro ⟨f, hf, hcondition⟩
    obtain ⟨hconnective, hmatch⟩ := (conditionOf_eq_ok_iff_match hs hf).mp hcondition
    exact ⟨hconnective, f.property, ((mem_expand_iff hs).mp hf).1, hmatch⟩
  · rintro ⟨hconnective, property, hproperty, hmatch⟩
    obtain ⟨f, hf, rfl⟩ := exists_mem_expand hs hproperty
    exact ⟨f, hf, (conditionOf_eq_ok_iff_match hs hf).mpr ⟨hconnective, hmatch⟩⟩

theorem connective_of_mem_conditions : ∀ condition ∈ more, condition.1 = parts.connective :=
  fun _ hcondition => ((mem_conditions_iff hs hmore).mp hcondition).1

theorem exists_holds_conditions_iff :
    (∃ condition ∈ more, condition.2.holds r = true) ↔
      ∃ property ∈ parts.properties, parts.Finds catalog schema property r := by
  constructor
  · rintro ⟨condition, hcondition, hholds⟩
    obtain ⟨-, property, hproperty, hmatch⟩ := (mem_conditions_iff hs hmore).mp hcondition
    exact ⟨property, hproperty, condition.2, hmatch, hholds⟩
  · rintro ⟨property, hproperty, c, hmatch, hholds⟩
    exact ⟨(parts.connective, c),
      (mem_conditions_iff hs hmore).mpr ⟨rfl, property, hproperty, hmatch⟩, hholds⟩

theorem forall_holds_conditions_iff :
    (∀ condition ∈ more, condition.2.holds r = true) ↔
      ∀ property ∈ parts.properties, parts.Finds catalog schema property r := by
  constructor
  · intro h property hproperty
    obtain ⟨c, hmatch⟩ := (exists_mapM_expand_iff hs).mp ⟨more, hmore⟩ property hproperty
    exact ⟨c, hmatch, h (parts.connective, c)
      ((mem_conditions_iff hs hmore).mpr ⟨rfl, property, hproperty, hmatch⟩)⟩
  · intro h condition hcondition
    obtain ⟨-, property, hproperty, hmatch⟩ := (mem_conditions_iff hs hmore).mp hcondition
    obtain ⟨c, hmatch', hholds⟩ := h property hproperty
    rwa [hmatch.unique hmatch']

theorem conditions_eq_nil_iff : more = [] ↔ parts.properties = [] := by
  constructor
  · rintro rfl
    rw [List.eq_nil_iff_forall_not_mem]
    intro property hproperty
    obtain ⟨c, hmatch⟩ := (exists_mapM_expand_iff hs).mp ⟨[], hmore⟩ property hproperty
    have hmem : (parts.connective, c) ∈ [] :=
      (mem_conditions_iff hs hmore).mpr ⟨rfl, property, hproperty, hmatch⟩
    exact List.not_mem_nil hmem
  · intro hnil
    rw [List.eq_nil_iff_forall_not_mem]
    intro condition hcondition
    obtain ⟨-, property, hproperty, -⟩ := (mem_conditions_iff hs hmore).mp hcondition
    rw [hnil] at hproperty
    exact List.not_mem_nil hproperty

end Conditions

/-! ## The meaning of a search -/

/-- What a query with a search accepts: `explicit` is the predicate of its filters alone, `whole`
that of its filters and its search. -/
structure Meaning (catalog : Catalog κ) (schema : Schema κ) (parts : SearchParts)
    (filters : List Filter) (explicit whole : Predicate) (r : Record) : Prop where
  any : filters ≠ [] → parts.connective = .or → (whole.holds r = true ↔
    explicit.holds r = true ∨ ∃ property ∈ parts.properties, parts.Finds catalog schema property r)
  all : filters ≠ [] → parts.connective = .and → (whole.holds r = true ↔
    explicit.holds r = true ∧ ∀ property ∈ parts.properties, parts.Finds catalog schema property r)
  /-- Without filters, the search decides alone. -/
  any_alone : filters = [] → parts.properties ≠ [] → parts.connective = .or →
    (whole.holds r = true ↔ ∃ property ∈ parts.properties, parts.Finds catalog schema property r)
  all_alone : filters = [] → parts.properties ≠ [] → parts.connective = .and →
    (whole.holds r = true ↔ ∀ property ∈ parts.properties, parts.Finds catalog schema property r)
  /-- A search in no property changes nothing. -/
  none : parts.properties = [] → whole = explicit
  unfiltered : parts.properties = [] → filters = [] → whole.holds r = true

section Whole

open Predicate

variable {filters : List Filter} {conditions : List (Connective × Comparison)}

theorem meaning_of_conditions (hs : parts.make = .ok s)
    (hconditions : filters.mapM (conditionOf catalog schema) = .ok conditions)
    (hmore : s.expand.mapM (conditionOf catalog schema) = .ok more) (r : Record) :
    parts.Meaning catalog schema filters (ofConditions conditions)
      (ofConditions (conditions ++ more)) r := by
  have hlength := (mapM_eq_ok_iff.mp hconditions).length_eq
  have hnil : filters = [] ↔ conditions = [] := by
    rw [← List.length_eq_zero_iff, ← List.length_eq_zero_iff, hlength]
  have hconnective := connective_of_mem_conditions hs hmore
  have hmorenil := conditions_eq_nil_iff hs hmore
  constructor
  · intro hfilters hor
    rw [hor] at hconnective
    rw [ofConditions_append (mt hnil.mpr hfilters), holds_foldl_extend_or hconnective,
      exists_holds_conditions_iff hs hmore]
  · intro hfilters hand
    rw [hand] at hconnective
    rw [ofConditions_append (mt hnil.mpr hfilters), holds_foldl_extend_and hconnective,
      forall_holds_conditions_iff hs hmore]
  · intro hfilters hproperties hor
    rw [hor] at hconnective
    rw [hnil.mp hfilters, List.nil_append,
      holds_ofConditions_or (mt hmorenil.mp hproperties) hconnective,
      exists_holds_conditions_iff hs hmore]
  · intro hfilters hproperties hand
    rw [hand] at hconnective
    rw [hnil.mp hfilters, List.nil_append, holds_ofConditions_and hconnective,
      forall_holds_conditions_iff hs hmore]
  · intro hproperties
    rw [hmorenil.mpr hproperties, List.append_nil]
  · intro hproperties hfilters
    rw [hmorenil.mpr hproperties, hnil.mp hfilters]
    rfl

theorem finds_iff_of_resolve {a b : String}
    (h : Path.resolve catalog schema b = Path.resolve catalog schema a) :
    parts.Finds catalog schema b r ↔ parts.Finds catalog schema a r := by
  unfold Finds
  simp only [match_iff_of_resolve h]

/-- What a query accepts does not change with the listing of the properties. -/
theorem Meaning.holds_iff {properties : List String} {explicit whole whole' : Predicate}
    (h : parts.Meaning catalog schema filters explicit whole r)
    (h' : Meaning catalog schema { parts with properties } filters explicit whole' r)
    (hsame : Path.SameMembers catalog schema parts.properties properties) :
    whole'.holds r = true ↔ whole.holds r = true := by
  have hexists : (∃ b ∈ properties, parts.Finds catalog schema b r) ↔
      ∃ a ∈ parts.properties, parts.Finds catalog schema a r :=
    hsame.exists_iff fun _ _ => finds_iff_of_resolve
  have hforall : (∀ b ∈ properties, parts.Finds catalog schema b r) ↔
      ∀ a ∈ parts.properties, parts.Finds catalog schema a r :=
    hsame.forall_iff fun _ _ => finds_iff_of_resolve
  by_cases hproperties : parts.properties = []
  · rw [h.none hproperties, h'.none (hsame.eq_nil_iff.mpr hproperties)]
  · have hproperties' : properties ≠ [] := mt hsame.eq_nil_iff.mp hproperties
    by_cases hfilters : filters = []
    · cases hconnective : parts.connective with
      | or =>
        exact (h'.any_alone hfilters hproperties' hconnective).trans
          (hexists.trans (h.any_alone hfilters hproperties hconnective).symm)
      | and =>
        exact (h'.all_alone hfilters hproperties' hconnective).trans
          (hforall.trans (h.all_alone hfilters hproperties hconnective).symm)
    · cases hconnective : parts.connective with
      | or =>
        exact (h'.any hfilters hconnective).trans
          ((or_congr_right hexists).trans (h.any hfilters hconnective).symm)
      | and =>
        exact (h'.all hfilters hconnective).trans
          ((and_congr_right' hforall).trans (h.all hfilters hconnective).symm)

theorem exists_make_of_sameMembers {properties : List String} (hs : parts.make = .ok s)
    (hmatch : ∀ property ∈ parts.properties, ∃ c, parts.Match catalog schema property c)
    (hsame : Path.SameMembers catalog schema parts.properties properties) :
    ∃ s', make { parts with properties } = .ok s' := by
  have hnamed : ∀ property ∈ properties, Text.isBlankText property = false := by
    intro b hb
    obtain ⟨a, ha, hresolve⟩ := hsame.symm.exists_resolve_eq hb
    obtain ⟨c, path, _, _, hpath, -⟩ := hmatch a ha
    exact (Path.resolve_eq_ok_iff.mp (hresolve.symm.trans hpath)).1
  have hterm : parts.term ≠ "" := (make_eq_ok_iff.mp hs).1 ▸ s.term_ne
  unfold make Search.make
  rw [dif_pos hterm, dif_pos hnamed]
  exact ⟨_, rfl⟩

theorem conditions_of_search {q : Query} (hq : q.search = some s) :
    q.conditions = q.filters ++ s.expand := by
  unfold Query.conditions Query.searchFilters
  rw [hq]

theorem exists_ofFilters_search_iff (hs : parts.make = .ok s) :
    (∃ whole, ofFilters catalog schema (filters ++ s.expand) = .ok whole) ↔
      (∃ explicit, ofFilters catalog schema filters = .ok explicit) ∧
        ∀ property ∈ parts.properties, ∃ c, parts.Match catalog schema property c := by
  rw [← exists_mapM_expand_iff hs]
  constructor
  · rintro ⟨whole, hwhole⟩
    obtain ⟨conditions, more, hconditions, hmore, -⟩ := ofFilters_append_eq_ok_iff.mp hwhole
    exact ⟨⟨_, map_eq_ok_iff.mpr ⟨conditions, hconditions, rfl⟩⟩, more, hmore⟩
  · rintro ⟨⟨explicit, hexplicit⟩, more, hmore⟩
    obtain ⟨conditions, hconditions, -⟩ := map_eq_ok_iff.mp hexplicit
    exact ⟨_, ofFilters_append_eq_ok_iff.mpr ⟨conditions, more, hconditions, hmore, rfl⟩⟩

theorem meaning_of_ofFilters {explicit whole : Predicate} (hs : parts.make = .ok s)
    (hexplicit : ofFilters catalog schema filters = .ok explicit)
    (hwhole : ofFilters catalog schema (filters ++ s.expand) = .ok whole) (r : Record) :
    parts.Meaning catalog schema filters explicit whole r := by
  obtain ⟨conditions, more, hconditions, hmore, rfl⟩ := ofFilters_append_eq_ok_iff.mp hwhole
  obtain ⟨conditions', hconditions', rfl⟩ := map_eq_ok_iff.mp hexplicit
  obtain rfl : conditions' = conditions := Except.ok.inj (hconditions'.symm.trans hconditions)
  exact meaning_of_conditions hs hconditions hmore r

/-- A query with a search compiles exactly if its filters do by themselves and the term can be
compared with every listed property. It then accepts what the filters accept or any match is found
in, or what the filters accept and all matches are found in, by the connective of the search. Other
lists of properties that lead to the same members make queries that accept the same records. -/
theorem holds_search {q : Query} (hs : parts.make = .ok s) (hq : q.search = some s) :
    ((∃ whole, ofFilters catalog schema q.conditions = .ok whole) ↔
        (∃ explicit, ofFilters catalog schema q.filters = .ok explicit) ∧
          ∀ property ∈ parts.properties, ∃ c, parts.Match catalog schema property c) ∧
      (∀ explicit whole, ofFilters catalog schema q.filters = .ok explicit →
        ofFilters catalog schema q.conditions = .ok whole →
          ∀ r, parts.Meaning catalog schema q.filters explicit whole r) ∧
      ∀ whole, ofFilters catalog schema q.conditions = .ok whole →
        ∀ properties, Path.SameMembers catalog schema parts.properties properties →
          ∃ s' whole', make { parts with properties } = .ok s' ∧
            ofFilters catalog schema { q with search := some s' }.conditions = .ok whole' ∧
            ∀ r, whole'.holds r = whole.holds r := by
  rw [conditions_of_search hq]
  refine ⟨exists_ofFilters_search_iff hs, fun explicit whole => meaning_of_ofFilters hs, ?_⟩
  intro whole hwhole properties hsame
  obtain ⟨⟨explicit, hexplicit⟩, hmatch⟩ := (exists_ofFilters_search_iff hs).mp ⟨whole, hwhole⟩
  obtain ⟨s', hs'⟩ := exists_make_of_sameMembers hs hmatch hsame
  have hmatch' : ∀ b ∈ properties, ∃ c, parts.Match catalog schema b c := by
    refine (hsame.forall_iff fun a b hresolve => ?_).mpr hmatch
    exact exists_congr fun c => match_iff_of_resolve hresolve
  obtain ⟨whole', hwhole'⟩ :=
    (exists_ofFilters_search_iff hs').mpr ⟨⟨explicit, hexplicit⟩, hmatch'⟩
  refine ⟨s', whole', hs', hwhole', fun r => Bool.eq_iff_iff.mpr ?_⟩
  exact (meaning_of_ofFilters hs hexplicit hwhole r).holds_iff
    (meaning_of_ofFilters hs' hexplicit hwhole' r) hsame

/-- The search for a double n in the name of a person or of the manager. -/
def doubleN : SearchParts := ⟨"nn", ["Name", "Manager.Name"], .contains, .or⟩

/-- The properties of this search in another order and with one repeated, in other spellings. -/
theorem sameMembers_doubleN :
    Path.SameMembers Person.catalog Person.schema doubleN.properties
      ["manager.name", "NAME", "manager.name"] := by
  let name : Path (MemberType Unit) := ⟨[], "Name", .scalar .text⟩
  let managerName : Path (MemberType Unit) := ⟨["Manager"], "Name", .scalar .text⟩
  have hlisted : doubleN.properties.map (Path.resolve Person.catalog Person.schema) =
      [.ok name, .ok managerName] := rfl
  have hspelled : ["NAME", "manager.name"].map (Path.resolve Person.catalog Person.schema) =
      [.ok name, .ok managerName] := rfl
  refine (Path.SameMembers.of_map_eq (hspelled.trans hlisted.symm)).trans
    (.of_mem_iff fun path => ?_)
  simp only [List.mem_cons, List.not_mem_nil, or_false]
  tauto

theorem holds_doubleN :
    ∃ s whole, doubleN.make = .ok s ∧
      ofFilters Person.catalog Person.schema (searchedTeam s).conditions = .ok whole ∧
      (∀ r, whole.holds r = true ↔
        (∃ explicit, ofFilters Person.catalog Person.schema teamFilters = .ok explicit ∧
          explicit.holds r = true) ∨
        ∃ property ∈ doubleN.properties,
          doubleN.Finds Person.catalog Person.schema property r) ∧
      ∃ s' whole',
        make { doubleN with properties := ["manager.name", "NAME", "manager.name"] } = .ok s' ∧
        ofFilters Person.catalog Person.schema (searchedTeam s').conditions = .ok whole' ∧
        ∀ r, whole'.holds r = whole.holds r := by
  obtain ⟨s, whole, hs, hwhole⟩ : ∃ s whole, doubleN.make = .ok s ∧
      ofFilters Person.catalog Person.schema (searchedTeam s).conditions = .ok whole :=
    ⟨_, _, rfl, rfl⟩
  have hq : (searchedTeam s).search = some s := rfl
  obtain ⟨explicit, hexplicit⟩ := ((holds_search hs hq).1.mp ⟨whole, hwhole⟩).1
  have hmeaning := (holds_search hs hq).2.1 explicit whole hexplicit hwhole
  obtain ⟨s', whole', hs', hwhole', hholds⟩ :=
    (holds_search hs hq).2.2 whole hwhole _ sameMembers_doubleN
  refine ⟨s, whole, hs, hwhole, fun r => ?_, s', whole', hs', hwhole', hholds⟩
  have hteam : ofFilters Person.catalog Person.schema teamFilters = .ok explicit := hexplicit
  have hany := (hmeaning r).any (List.cons_ne_nil _ _) rfl
  rw [hany]
  refine or_congr_left ⟨fun h => ⟨explicit, hteam, h⟩, ?_⟩
  rintro ⟨explicit', hteam', h⟩
  obtain rfl : explicit = explicit' := Except.ok.inj (hteam.symm.trans hteam')
  exact h

end Whole

end SearchParts

end RecordQuery
