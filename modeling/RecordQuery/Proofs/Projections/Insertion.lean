import Mathlib.Data.List.Infix
import RecordQuery.Plan.Projection
import RecordQuery.Proofs.Json.Members

/-!
# Values put at the end of a path

What an object holds after a value was put at the end of a path of names: the value at the end,
objects on the way there, and elsewhere what it held before. Two values go to their places in either
order, as long as neither path goes on from the other.

Results:
* `follow?_insertAt_self`, `follow?_insertAt_parents`, `follow?_insertAt_of_apart`: what names
  lead to after an insertion.
* `insertAt_comm`: two insertions in either order.
* `ordered_insertAt`: all objects stay in the order of their keys.
-/

namespace RecordQuery.Projection

open Json (find? find?_insert)

variable {parents parents' names : List String} {leaf leaf' name : String} {v w : Json}
  {ms : List (String × Json)}

/-! ## Nested objects -/

/-- The members of the object under a name; none if there is no object. -/
def nestedMembers (name : String) (ms : List (String × Json)) : List (String × Json) :=
  ((find? name ms).map Json.members).getD []

theorem insertAt_cons : insertAt (name :: parents) leaf v ms =
    Json.insert name (.object (insertAt parents leaf v (nestedMembers name ms))) ms := rfl

theorem nestedMembers_insert_self (inner : List (String × Json)) :
    nestedMembers name (Json.insert name (.object inner) ms) = inner := by
  rw [nestedMembers, find?_insert, if_pos rfl]
  rfl

theorem nestedMembers_insert_of_ne {key : String} (hne : key ≠ name) :
    nestedMembers name (Json.insert key v ms) = nestedMembers name ms := by
  rw [nestedMembers, find?_insert, if_neg hne, nestedMembers]

theorem follow?_nestedMembers (hn : names ≠ []) :
    (Json.object (nestedMembers name ms)).follow? names =
      (Json.object ms).follow? (name :: names) := by
  obtain ⟨next, more, rfl⟩ := List.exists_cons_of_ne_nil hn
  rw [nestedMembers, Json.follow?, Json.follow?, Json.members, Json.members]
  cases find? name ms with
  | none => rfl
  | some u => rfl

theorem ordered_nestedMembers (h : (Json.object ms).Ordered) :
    (Json.object (nestedMembers name ms)).Ordered := by
  unfold nestedMembers
  cases hfind : find? name ms with
  | none => exact Json.ordered_of_members_eq_nil rfl
  | some u =>
    have hu : u.Ordered := (Json.ordered_iff.mp h).2 name u hfind
    obtain ⟨hkeys, hnested⟩ := Json.ordered_iff.mp hu
    exact Json.ordered_iff.mpr ⟨hkeys, hnested⟩

/-! ## One insertion -/

theorem follow?_insertAt_self (parents : List String) (leaf : String) (v : Json)
    (ms : List (String × Json)) :
    (Json.object (insertAt parents leaf v ms)).follow? (parents ++ [leaf]) = some v := by
  induction parents generalizing ms with
  | nil =>
    show (find? leaf (Json.insert leaf v ms)).bind _ = _
    rw [find?_insert, if_pos rfl]
    rfl
  | cons name parents ih =>
    rw [insertAt_cons, List.cons_append, Json.follow?, Json.members, find?_insert, if_pos rfl]
    exact ih _

theorem follow?_insertAt_parents (h : names <+: parents) :
    ∃ inner, (Json.object (insertAt parents leaf v ms)).follow? names = some (.object inner) := by
  induction parents generalizing names ms with
  | nil =>
    rw [List.prefix_nil.mp h]
    exact ⟨_, rfl⟩
  | cons name parents ih =>
    cases names with
    | nil => exact ⟨_, rfl⟩
    | cons next names =>
      obtain ⟨rfl, hnames⟩ := List.cons_prefix_cons.mp h
      rw [insertAt_cons, Json.follow?, Json.members, find?_insert, if_pos rfl]
      exact ih hnames

theorem follow?_insertAt_of_apart (h : ¬names <+: parents ++ [leaf])
    (h' : ¬parents ++ [leaf] <+: names) :
    (Json.object (insertAt parents leaf v ms)).follow? names = (Json.object ms).follow? names := by
  induction parents generalizing names ms with
  | nil =>
    cases names with
    | nil => exact absurd List.nil_prefix h
    | cons next names =>
      have hne : leaf ≠ next := by
        rintro rfl
        exact h' (List.cons_prefix_cons.mpr ⟨rfl, List.nil_prefix⟩)
      rw [insertAt, Json.follow?, Json.follow?, Json.members, Json.members, find?_insert,
        if_neg hne]
  | cons name parents ih =>
    cases names with
    | nil => exact absurd List.nil_prefix h
    | cons next names =>
      rw [List.cons_append, List.cons_prefix_cons, not_and] at h h'
      by_cases hne : name = next
      · -- names that end here would be on the way to the value
        subst hne
        have hnames : names ≠ [] := by
          rintro rfl
          exact h rfl List.nil_prefix
        rw [insertAt_cons, ← follow?_nestedMembers hnames, nestedMembers_insert_self,
          ← follow?_nestedMembers hnames]
        exact ih (h rfl) (h' rfl)
      · rw [insertAt_cons, Json.follow?, Json.follow?, Json.members, Json.members, find?_insert,
          if_neg hne]

theorem ordered_insertAt (hv : v.Ordered) (hms : (Json.object ms).Ordered) :
    (Json.object (insertAt parents leaf v ms)).Ordered := by
  induction parents generalizing ms with
  | nil => exact hms.insert hv leaf
  | cons name parents ih =>
    rw [insertAt_cons]
    exact hms.insert (ih (ordered_nestedMembers hms)) name

/-! ## Two insertions -/

/-- A value under a name and a value further down under another name. -/
theorem insert_insertAt_comm (hne : leaf ≠ name) :
    Json.insert leaf v (insertAt (name :: parents) leaf' w ms) =
      insertAt (name :: parents) leaf' w (Json.insert leaf v ms) := by
  rw [insertAt_cons, insertAt_cons, nestedMembers_insert_of_ne hne, Json.insert_comm hne]

theorem insertAt_comm (h : ¬parents ++ [leaf] <+: parents' ++ [leaf'])
    (h' : ¬parents' ++ [leaf'] <+: parents ++ [leaf]) (v w : Json) (ms : List (String × Json)) :
    insertAt parents leaf v (insertAt parents' leaf' w ms) =
      insertAt parents' leaf' w (insertAt parents leaf v ms) := by
  induction parents generalizing parents' ms with
  | nil =>
    have hne : ∀ name more, parents' ++ [leaf'] = name :: more → leaf ≠ name := by
      rintro name more hcons rfl
      rw [hcons] at h
      exact h (List.cons_prefix_cons.mpr ⟨rfl, List.nil_prefix⟩)
    cases parents' with
    | nil => exact Json.insert_comm (hne leaf' [] rfl) v w ms
    | cons name parents' => exact insert_insertAt_comm (hne name _ rfl)
  | cons name parents ih =>
    cases parents' with
    | nil =>
      have hne : leaf' ≠ name := by
        rintro rfl
        exact h' (List.cons_prefix_cons.mpr ⟨rfl, List.nil_prefix⟩)
      exact (insert_insertAt_comm hne).symm
    | cons name' parents' =>
      by_cases hne : name = name'
      · -- both go into one nested object, where the shorter paths are still apart
        subst hne
        rw [List.cons_append, List.cons_append, List.cons_prefix_cons, not_and] at h h'
        rw [insertAt_cons, insertAt_cons, insertAt_cons, insertAt_cons, nestedMembers_insert_self,
          nestedMembers_insert_self, Json.insert_insert, Json.insert_insert, ih (h rfl) (h' rfl)]
      · rw [insertAt_cons, insertAt_cons, insertAt_cons, insertAt_cons,
          nestedMembers_insert_of_ne hne, nestedMembers_insert_of_ne (Ne.symm hne),
          Json.insert_comm hne]

end RecordQuery.Projection
