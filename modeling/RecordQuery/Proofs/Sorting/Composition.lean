import Mathlib.Data.List.Induction
import RecordQuery.Plan.SortPlan
import RecordQuery.Proofs.Records.WellTyped
import RecordQuery.Proofs.Sorting.ValueOrder

/-!
# Sorting by several keys

A plan sorts once, by all its keys. For rows that hold values of one kind at every key, that is what
sorting by one key after the other would give: the last key is decisive, and the keys before it
settle its ties.

Results:
* `stablySorted_sort`: a plan puts rows in its order and keeps the order of rows that tie.
* `foldl_sort_eq`: sorting by one key after the other is sorting once by the reversed keys.
* `sort_ofDirectives`: what the two ways to combine directives do.
-/

namespace RecordQuery

variable {κ ρ : Type} {view : ρ → Record} {rows : List ρ}

/-! ## The order of rows -/

namespace SortKey

/-- The values of rows at a key are of one kind, apart from null, and none is NaN. -/
def Uniform (k : SortKey) (view : ρ → Record) (rows : List ρ) : Prop :=
  ∃ kind, ∀ row ∈ rows, (k.column.read (view row)).Fits kind

/-- Rows sorted by one key, where rows that tie keep the order they had. -/
def sort (k : SortKey) (view : ρ → Record) (rows : List ρ) : List ρ :=
  rows.mergeSort fun a b => k.order (view a) (view b) != .gt

theorem preorderOn_order {k : SortKey} (h : k.Uniform view rows) :
    PreorderOn (· ∈ rows) fun a b => k.order (view a) (view b) := by
  obtain ⟨kind, hkind⟩ := h
  have hvalues : PreorderOn (· ∈ rows) fun a b =>
      (k.column.read (view a)).sortOrder (k.column.read (view b)) :=
    ((Value.preorderOn_sortOrder kind).comap fun row => k.column.read (view row)).mono hkind
  unfold order
  cases k.ascending with
  | true => exact hvalues
  | false => exact hvalues.reverse

theorem stablySorted_sort {k : SortKey} (h : k.Uniform view rows) :
    StablySorted (fun a b => k.order (view a) (view b)) rows (k.sort view rows) :=
  stablySorted_mergeSort (preorderOn_order h)

/-- Sorting does not change which values there are at a key. -/
theorem Uniform.of_perm {k : SortKey} {rows' : List ρ} (h : k.Uniform view rows)
    (hp : rows'.Perm rows) : k.Uniform view rows' := by
  obtain ⟨kind, hkind⟩ := h
  exact ⟨kind, fun row hrow => hkind row (hp.mem_iff.mp hrow)⟩

theorem order_of_isNull {k : SortKey} {a b : Record} (ha : (k.column.read a).isNull = true)
    (hb : (k.column.read b).isNull = false) :
    k.order a b = if k.ascending then .lt else .gt := by
  rw [order, Value.isNull_eq_true_iff.mp ha, Value.sortOrder_null_left hb]
  rfl

theorem ascending_of_ofDirective {catalog : Catalog κ} {schema : Schema κ} {d : SortDirective}
    {k : SortKey} (h : ofDirective catalog schema d = .ok k) : k.ascending = d.ascending := by
  unfold ofDirective at h
  cases hp : Path.resolve catalog schema d.property with
  | error e => simp [hp, bind, Except.bind] at h
  | ok path =>
    simp only [hp, bind, Except.bind] at h
    split at h
    · cases h; rfl
    · cases h

end SortKey

namespace SortPlan

/-- The values of rows at every key are of one kind, apart from null, and none is NaN. -/
def Uniform (p : SortPlan) (view : ρ → Record) (rows : List ρ) : Prop :=
  ∀ k ∈ p.keys, k.Uniform view rows

theorem preorderOn_lexicographic {keys : List SortKey} (h : ∀ k ∈ keys, k.Uniform view rows) :
    PreorderOn (· ∈ rows) fun a b => lexicographic keys (view a) (view b) := by
  induction keys with
  | nil => exact ⟨fun _ _ _ _ => rfl, fun _ _ _ _ _ _ _ _ => by simp [lexicographic]⟩
  | cons k keys ih =>
    exact (SortKey.preorderOn_order (h k (by simp))).then (ih fun k hk => h k (by simp [hk]))

/-- The keys of a plan, the decisive one first. -/
def precedence (p : SortPlan) : List SortKey :=
  match p.composition with
  | .multiKey => p.keys
  | .sequential => p.keys.reverse

theorem order_eq_lexicographic (p : SortPlan) : p.order = lexicographic p.precedence := by
  unfold order precedence
  cases p.composition <;> rfl

@[simp] theorem mem_precedence {p : SortPlan} {k : SortKey} : k ∈ p.precedence ↔ k ∈ p.keys := by
  unfold precedence
  cases p.composition <;> simp

theorem preorderOn_order {p : SortPlan} (h : p.Uniform view rows) :
    PreorderOn (· ∈ rows) fun a b => p.order (view a) (view b) := by
  rw [order_eq_lexicographic]
  exact preorderOn_lexicographic fun k hk => h k (mem_precedence.mp hk)

theorem stablySorted_sort {p : SortPlan} (h : p.Uniform view rows) :
    StablySorted (fun a b => p.order (view a) (view b)) rows (p.sort view rows) :=
  stablySorted_mergeSort (preorderOn_order h)

theorem lexicographic_eq_eq_iff {keys : List SortKey} {a b : Record} :
    lexicographic keys a b = .eq ↔ ∀ k ∈ keys, k.order a b = .eq := by
  induction keys with
  | nil => simp [lexicographic]
  | cons k keys ih =>
    rw [List.forall_mem_cons, ← ih]
    exact Ordering.then_eq_eq

theorem order_eq_eq_iff {p : SortPlan} {a b : Record} :
    p.order a b = .eq ↔ ∀ k ∈ p.keys, k.order a b = .eq := by
  rw [order_eq_lexicographic, lexicographic_eq_eq_iff]
  simp only [mem_precedence]

/-! ## One key after the other -/

/-- After sorting by some keys in turn, rows are in the order of these keys, the last decisive. -/
theorem stablySorted_foldl_sort {keys : List SortKey} (h : ∀ k ∈ keys, k.Uniform view rows) :
    StablySorted (fun a b => lexicographic keys.reverse (view a) (view b)) rows
      (keys.foldl (fun rows k => k.sort view rows) rows) := by
  induction keys using List.reverseRecOn with
  | nil => exact StablySorted.refl rows
  | append_singleton keys k ih =>
    have hsorted := ih fun k hk => h k (by simp [hk])
    have hk : k.Uniform view rows := h k (by simp)
    rw [List.foldl_append, List.reverse_append]
    exact hsorted.then (SortKey.preorderOn_order hk)
      (SortKey.stablySorted_sort (hk.of_perm hsorted.perm))

theorem foldl_sort_eq {keys : List SortKey} (h : ∀ k ∈ keys, k.Uniform view rows) :
    keys.foldl (fun rows k => k.sort view rows) rows =
      rows.mergeSort fun a b => lexicographic keys.reverse (view a) (view b) != .gt :=
  (stablySorted_foldl_sort h).eq_mergeSort
    (preorderOn_lexicographic fun k hk => h k (List.mem_reverse.mp hk))

theorem sort_of_keys_eq_nil {p : SortPlan} (h : p.keys = []) : p.sort view rows = rows := by
  refine List.mergeSort_of_pairwise (List.pairwise_of_forall fun a b => ?_)
  have : p.order (view a) (view b) = .eq := order_eq_eq_iff.mpr (by simp [h])
  simp [this]

/-! ## Directives -/

variable {catalog : Catalog κ} {schema : Schema κ} {ds : List SortDirective}
  {composition : SortComposition} {p : SortPlan}

theorem ofDirectives_eq_ok_iff :
    ofDirectives catalog schema ds composition = .ok p ↔
      p.composition = composition ∧
        List.Forall₂ (fun d k => SortKey.ofDirective catalog schema d = .ok k) ds p.keys := by
  rw [ofDirectives, bind_eq_ok_iff]
  simp only [mapM_eq_ok_iff]
  constructor
  · rintro ⟨keys, hkeys, hp⟩
    cases hp
    exact ⟨rfl, hkeys⟩
  · rintro ⟨rfl, hkeys⟩
    exact ⟨p.keys, hkeys, rfl⟩

/-- Reversed directives compile to the reversed keys. -/
theorem ofDirectives_reverse (h : ofDirectives catalog schema ds composition = .ok p)
    (composition' : SortComposition) :
    ofDirectives catalog schema ds.reverse composition' = .ok ⟨p.keys.reverse, composition'⟩ :=
  ofDirectives_eq_ok_iff.mpr
    ⟨rfl, List.forall₂_reverse_iff.mpr (ofDirectives_eq_ok_iff.mp h).2⟩

/-- Two plans of one precedence sort alike, however their keys are combined. -/
theorem sort_eq_of_precedence_eq {p p' : SortPlan} (h : p.precedence = p'.precedence) :
    p.sort view rows = p'.sort view rows := by
  unfold sort
  rw [order_eq_lexicographic, order_eq_lexicographic, h]

/-- Sorting by directives one after the other, for rows whose values at every key are of one kind:
it is one sort by the directives, the last of which is decisive, and combined the other way the
first of them is. Either way the rows are the same, none stands before one that the plan puts before
it, and rows that tie on all keys keep their order. -/
theorem sort_ofDirectives (h : ofDirectives catalog schema ds composition = .ok p)
    (hrows : p.Uniform view rows) :
    List.Forall₂ (fun d k => SortKey.ofDirective catalog schema d = .ok k ∧
        k.ascending = d.ascending) ds p.keys ∧
      (composition = .sequential →
        p.sort view rows = p.keys.foldl (fun rows k => k.sort view rows) rows) ∧
      (composition = .multiKey → ∃ p' : SortPlan,
        ofDirectives catalog schema ds.reverse .sequential = .ok p' ∧
          p.sort view rows = p'.sort view rows) ∧
      (p.sort view rows).Perm rows ∧
      (p.sort view rows).Pairwise (fun a b => p.order (view a) (view b) ≠ .gt) ∧
      (∀ a ∈ rows,
        ((p.sort view rows).filter fun b => p.keys.all fun k => k.order (view a) (view b) == .eq) =
          rows.filter fun b => p.keys.all fun k => k.order (view a) (view b) == .eq) ∧
      (∀ k ∈ p.keys, ∀ a b, (k.column.read a).isNull = true → (k.column.read b).isNull = false →
        k.order a b = if k.ascending then .lt else .gt) ∧
      (ds = [] → p.sort view rows = rows) := by
  obtain ⟨hcomp, hkeys⟩ := ofDirectives_eq_ok_iff.mp h
  have hsorted := stablySorted_sort hrows
  refine ⟨hkeys.imp fun d k hk => ⟨hk, SortKey.ascending_of_ofDirective hk⟩, ?_, ?_, hsorted.perm,
    hsorted.pairwise, ?_, fun k _ a b => SortKey.order_of_isNull, ?_⟩
  · rintro rfl
    rw [foldl_sort_eq hrows, sort, order_eq_lexicographic, precedence, hcomp]
  · rintro rfl
    refine ⟨_, ofDirectives_reverse h .sequential, sort_eq_of_precedence_eq ?_⟩
    simp [precedence, hcomp]
  · intro a ha
    have htie : (fun b => p.keys.all fun k => k.order (view a) (view b) == .eq) =
        fun b => p.order (view a) (view b) == .eq := by
      funext b
      rw [Bool.eq_iff_iff]
      simp [order_eq_eq_iff]
    rw [htie]
    exact hsorted.ties a ha
  · rintro rfl
    exact sort_of_keys_eq_nil (List.forall₂_nil_left_iff.mp hkeys)

/-- Persons by the names of their managers, and above that by their ages, going down. -/
def ofTeam : SortPlan :=
  ⟨[⟨⟨["Manager"], "Name", .text⟩, true⟩, ⟨⟨[], "Age", .int32⟩, false⟩], .sequential⟩

theorem uniform_ofTeam : ofTeam.Uniform Person.record Person.team := by
  intro k hk
  simp only [ofTeam, List.mem_cons, List.not_mem_nil, or_false] at hk
  rcases hk with rfl | rfl
  · exact ⟨.text, by unfold Value.Fits; decide⟩
  · exact ⟨.int32, by unfold Value.Fits; decide⟩

theorem sort_team :
    ofDirectives Person.catalog Person.schema [⟨"manager.name", true⟩, ⟨"Age", false⟩] .sequential =
        .ok ofTeam ∧
      ofTeam.Uniform Person.record Person.team ∧
      ofTeam.sort Person.record Person.team =
        ofTeam.keys.foldl (fun rows k => k.sort Person.record rows) Person.team := by
  have h : ofDirectives Person.catalog Person.schema [⟨"manager.name", true⟩, ⟨"Age", false⟩]
      .sequential = .ok ofTeam := rfl
  exact ⟨h, uniform_ofTeam, (sort_ofDirectives h uniform_ofTeam).2.1 rfl⟩

end SortPlan

end RecordQuery
