import RecordQuery.Proofs.Filters.Searching
import RecordQuery.Proofs.Queries.KindByKind

/-!
# What a search expands to

A search is made of a term and a list of properties, and it can be told afterwards to compare or to
join in another way, any number of times. Its filters are not looked at one by one when it expands:
that each of them could have been made by itself is owed to the making of the search.

Results:
* `listsOnce_eraseDups`: repeated items dropped, every item is listed once, where it occurs first.
* `foldl_change`: of many changes to a search, the last one of each kind counts.
* `exists_make_iff`: the parts of which a search can be made.
* `expands_of_make`: a search expands to one filter for each property, and each filter is the one
  that is made of its parts.
-/

namespace RecordQuery

/-! ## Listing every item once -/

section Listing

variable {α : Type} [BEq α]

/-- A listing has the items of a list, each once, in the order in which they occur first. -/
structure ListsOnce (items listing : List α) : Prop where
  mem_iff : ∀ a, a ∈ listing ↔ a ∈ items
  ordered : listing.Pairwise fun a b => items.idxOf a < items.idxOf b

variable {items listing : List α} {a : α}

theorem ListsOnce.nodup (h : ListsOnce items listing) : listing.Nodup := by
  refine h.ordered.imp ?_
  rintro a _ hlt rfl
  exact Nat.lt_irrefl _ hlt

variable [LawfulBEq α]

/-- Items at the end do not change the order of those that are listed. -/
theorem ListsOnce.ordered_append (h : ListsOnce items listing) (more : List α) :
    listing.Pairwise fun a b => (items ++ more).idxOf a < (items ++ more).idxOf b := by
  refine h.ordered.imp_of_mem ?_
  intro a b ha hb hlt
  rwa [List.idxOf_append_of_mem ((h.mem_iff a).mp ha),
    List.idxOf_append_of_mem ((h.mem_iff b).mp hb)]

/-- One more item that is listed already. -/
theorem ListsOnce.concat_of_mem (h : ListsOnce items listing) (ha : a ∈ items) :
    ListsOnce (items ++ [a]) listing where
  mem_iff b := by
    rw [h.mem_iff, List.mem_append, List.mem_singleton]
    constructor
    · exact .inl
    · rintro (hb | rfl)
      · exact hb
      · exact ha
  ordered := h.ordered_append [a]

/-- One more item that is not listed yet comes last. -/
theorem ListsOnce.concat_of_notMem (h : ListsOnce items listing) (ha : a ∉ items) :
    ListsOnce (items ++ [a]) (listing ++ [a]) where
  mem_iff b := by rw [List.mem_append, List.mem_append, h.mem_iff]
  ordered := by
    refine List.pairwise_append.mpr ⟨h.ordered_append [a], List.pairwise_singleton _ _, ?_⟩
    intro b hb c hc
    obtain rfl := List.mem_singleton.mp hc
    have hitems : b ∈ items := (h.mem_iff b).mp hb
    rw [List.idxOf_append_of_mem hitems, List.idxOf_append_of_notMem ha, List.idxOf_cons_self]
    exact List.idxOf_lt_length_iff.mpr hitems

theorem eraseDups_concat_of_mem (ha : a ∈ items) :
    (items ++ [a]).eraseDups = items.eraseDups := by
  simp [List.eraseDups_append, List.removeAll, ha]

theorem eraseDups_concat_of_notMem (ha : a ∉ items) :
    (items ++ [a]).eraseDups = items.eraseDups ++ [a] := by
  rw [List.eraseDups_append, List.removeAll, List.filter_cons_of_pos (by simpa using ha)]
  rfl

/-- Where repeated items are dropped, every item is listed once. The items are taken one after
another, and each is listed unless it is there already. -/
theorem listsOnce_eraseDups (items : List α) : ListsOnce items items.eraseDups := by
  induction items using List.reverseRecOn with
  | nil => exact ⟨fun _ => Iff.rfl, List.Pairwise.nil⟩
  | append_singleton items a ih =>
    by_cases ha : a ∈ items
    · rw [eraseDups_concat_of_mem ha]
      exact ih.concat_of_mem ha
    · rw [eraseDups_concat_of_notMem ha]
      exact ih.concat_of_notMem ha

end Listing

/-! ## Searches that are changed afterwards -/

namespace Search

/-- A change to how a search compares or joins. -/
inductive Change where
  /-- Compares in another way. -/
  | operand (operand : Operand)
  /-- Joins its filters in another way. -/
  | connective (connective : Connective)

/-- The operand that a change sets. -/
def Change.operand? : Change → Option Operand
  | .operand o => some o
  | .connective _ => none

/-- The connective that a change sets. -/
def Change.connective? : Change → Option Connective
  | .operand _ => none
  | .connective c => some c

/-- A search after a change. -/
def change (s : Search) : Change → Search
  | .operand operand => s.withOperand operand
  | .connective connective => s.withConnective connective

/-- The search for a term in some properties, after changes. -/
def ofChanges (term : String) (properties : List String) (changes : List Change) :
    Except ArgumentError Search :=
  (make term properties).map fun s => changes.foldl change s

/-- Changes leave the term and the properties, and the last one of each kind counts. -/
theorem foldl_change (s : Search) (changes : List Change) :
    changes.foldl change s =
      (s.withOperand ((changes.filterMap Change.operand?).getLast?.getD s.operand)).withConnective
        ((changes.filterMap Change.connective?).getLast?.getD s.connective) := by
  induction changes generalizing s with
  | nil => rfl
  | cons c changes ih =>
    rw [List.foldl_cons, ih, Draft.getLast?_filterMap_cons, Draft.getLast?_filterMap_cons,
      Option.getD_or, Option.getD_or]
    cases c <;> rfl

end Search

namespace SearchParts

variable {parts : SearchParts} {s : Search}

/-- The parts of a search that is changed afterwards. As it is made, it looks anywhere in a text and
one property is enough. -/
def ofChanges (term : String) (properties : List String) (changes : List Search.Change) :
    SearchParts where
  term := term
  properties := properties
  operand := (changes.filterMap Search.Change.operand?).getLast?.getD .contains
  connective := (changes.filterMap Search.Change.connective?).getLast?.getD .or

theorem make_ofChanges (term : String) (properties : List String) (changes : List Search.Change) :
    (ofChanges term properties changes).make = Search.ofChanges term properties changes := by
  unfold Search.ofChanges make ofChanges
  simp only [Search.foldl_change]
  unfold Search.make
  split
  · split <;> rfl
  · rfl

/-- A search can be made exactly of a term that is not empty and of properties with names. -/
theorem exists_make_iff : (∃ s, parts.make = .ok s) ↔
    parts.term ≠ "" ∧ ∀ p ∈ parts.properties, Text.isBlankText p = false := by
  unfold make Search.make
  constructor
  · rintro ⟨s, h⟩
    split at h
    · next hterm =>
      split at h
      · next hnamed => exact ⟨hterm, hnamed⟩
      · cases h
    · cases h
  · rintro ⟨hterm, hnamed⟩
    rw [dif_pos hterm, dif_pos hnamed]
    exact ⟨_, rfl⟩

/-! ## Expansion -/

/-- What it means that filters are the expansion of a search with these parts. -/
structure Expands (parts : SearchParts) (filters : List Filter) : Prop where
  /-- There is a filter for every property, in the order in which the properties come first. -/
  listed : ListsOnce parts.properties (filters.map Filter.property)
  /-- No property has two filters. -/
  nodup : (filters.map Filter.property).Nodup
  /-- Every filter is the one that is made of its property and of the other parts. -/
  made : ∀ f ∈ filters,
    Filter.make f.property parts.operand parts.term parts.connective = .ok f

theorem expands_of_make (hs : parts.make = .ok s) : parts.Expands s.expand := by
  obtain ⟨hterm, hproperties, hoperand, hconnective⟩ := make_eq_ok_iff.mp hs
  have hlisted : ListsOnce parts.properties (s.expand.map Filter.property) := by
    rw [s.map_property_expand, hproperties]
    exact listsOnce_eraseDups parts.properties
  refine ⟨hlisted, hlisted.nodup, ?_⟩
  intro f hf
  rw [← hterm, ← hoperand, ← hconnective]
  exact Search.make_of_mem_expand hf

end SearchParts

end RecordQuery
