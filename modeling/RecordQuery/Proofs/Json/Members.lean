import Mathlib.Data.String.Basic
import RecordQuery.Json.Value

/-!
# Members of JSON objects

Members are put into an object one after another. Those of different keys do not get into each
other's way, whichever comes first, and the object stays in the order of its keys. Names are
followed from an object to the objects in it.

Results:
* `insert_insert`, `insert_comm`: two members of one key, and of different keys in either order.
* `pairwise_insert`: an object in the order of its keys stays so.
* `find?_eq_some_of_mem`: in an object in order, every member is the one of its key.
* `follow?_append`: names are followed one after another.
* `Ordered.insert`: all objects stay in order when one more member is inserted.
-/

namespace RecordQuery.Json

variable {key key' k : String} {v w : Json} {ms : List (String × Json)}

/-! ## Insertion -/

theorem insert_cons_of_lt (h : key < k) :
    insert key v ((k, w) :: ms) = (key, v) :: (k, w) :: ms := by
  rw [insert, compare_lt_iff_lt.mpr h]

theorem insert_cons_self : insert k v ((k, w) :: ms) = (k, v) :: ms := by
  rw [insert, compare_eq_iff_eq.mpr rfl]

theorem insert_cons_of_gt (h : k < key) :
    insert key v ((k, w) :: ms) = (k, w) :: insert key v ms := by
  rw [insert, compare_gt_iff_gt.mpr h]

theorem insert_insert (key : String) (v w : Json) (ms : List (String × Json)) :
    insert key v (insert key w ms) = insert key v ms := by
  induction ms with
  | nil => rw [insert, insert_cons_self, insert]
  | cons m ms ih =>
    obtain ⟨k, u⟩ := m
    rcases lt_trichotomy key k with h | rfl | h
    · rw [insert_cons_of_lt h, insert_cons_self, insert_cons_of_lt h]
    · rw [insert_cons_self, insert_cons_self, insert_cons_self]
    · rw [insert_cons_of_gt h, insert_cons_of_gt h, insert_cons_of_gt h, ih]

theorem insert_comm_of_lt (hlt : key < key') (v w : Json) (ms : List (String × Json)) :
    insert key v (insert key' w ms) = insert key' w (insert key v ms) := by
  induction ms with
  | nil =>
    show insert key v [(key', w)] = insert key' w [(key, v)]
    rw [insert_cons_of_lt hlt, insert_cons_of_gt hlt, insert]
  | cons m ms ih =>
    obtain ⟨k, u⟩ := m
    rcases lt_trichotomy key k with h | rfl | h
    · -- The lesser key comes first, whatever the place of the other.
      rw [insert_cons_of_lt h, insert_cons_of_gt hlt]
      rcases lt_trichotomy key' k with h' | rfl | h'
      · rw [insert_cons_of_lt h', insert_cons_of_lt hlt]
      · rw [insert_cons_self, insert_cons_of_lt hlt]
      · rw [insert_cons_of_gt h', insert_cons_of_lt h]
    · rw [insert_cons_of_gt hlt, insert_cons_self, insert_cons_self, insert_cons_of_gt hlt]
    · rw [insert_cons_of_gt (h.trans hlt), insert_cons_of_gt h, insert_cons_of_gt h,
        insert_cons_of_gt (h.trans hlt), ih]

theorem insert_comm (hne : key ≠ key') (v w : Json) (ms : List (String × Json)) :
    insert key v (insert key' w ms) = insert key' w (insert key v ms) := by
  rcases lt_or_gt_of_ne hne with h | h
  · exact insert_comm_of_lt h v w ms
  · exact (insert_comm_of_lt h w v ms).symm

/-! ## Order -/

theorem eq_or_mem_of_mem_insert {m : String × Json} (hm : m ∈ insert key v ms) :
    m = (key, v) ∨ m ∈ ms := by
  induction ms with
  | nil => exact .inl (by simpa [insert] using hm)
  | cons m' ms ih =>
    obtain ⟨k, u⟩ := m'
    rcases lt_trichotomy key k with h | rfl | h
    · rw [insert_cons_of_lt h] at hm
      simpa using hm
    · rw [insert_cons_self] at hm
      rcases List.mem_cons.mp hm with hm | hm
      · exact .inl hm
      · exact .inr (List.mem_cons_of_mem _ hm)
    · rw [insert_cons_of_gt h] at hm
      rcases List.mem_cons.mp hm with rfl | hm
      · exact .inr List.mem_cons_self
      · exact (ih hm).imp_right (List.mem_cons_of_mem _)

theorem pairwise_insert (key : String) (v : Json) (h : ms.Pairwise (·.1 < ·.1)) :
    (insert key v ms).Pairwise (·.1 < ·.1) := by
  induction ms with
  | nil => exact List.pairwise_singleton _ _
  | cons m ms ih =>
    obtain ⟨k, u⟩ := m
    rw [List.pairwise_cons] at h
    rcases lt_trichotomy key k with hk | rfl | hk
    · rw [insert_cons_of_lt hk]
      refine List.pairwise_cons.mpr ⟨?_, List.pairwise_cons.mpr h⟩
      intro m hm
      rcases List.mem_cons.mp hm with rfl | hm
      · exact hk
      · exact hk.trans (h.1 m hm)
    · rw [insert_cons_self]
      exact List.pairwise_cons.mpr h
    · rw [insert_cons_of_gt hk]
      refine List.pairwise_cons.mpr ⟨?_, ih h.2⟩
      intro m hm
      rcases eq_or_mem_of_mem_insert hm with rfl | hm
      · exact hk
      · exact h.1 m hm

theorem find?_eq_some_of_mem (h : ms.Pairwise (·.1 < ·.1)) (hm : (k, v) ∈ ms) :
    find? k ms = some v := by
  induction ms with
  | nil => cases hm
  | cons m ms ih =>
    obtain ⟨k', u⟩ := m
    rw [List.pairwise_cons] at h
    rcases List.mem_cons.mp hm with heq | hm
    · cases heq
      simp [find?]
    · have hne : k' ≠ k := (h.1 (k, v) hm).ne
      have := ih h.2 hm
      simpa [find?, hne] using this

/-! ## Nested objects -/

/-- The value that names lead to, each the key of a member of the object before. -/
def follow? (v : Json) : List String → Option Json
  | [] => some v
  | name :: names => (find? name v.members).bind (·.follow? names)

theorem follow?_append (v : Json) (names more : List String) :
    v.follow? (names ++ more) = (v.follow? names).bind (·.follow? more) := by
  induction names generalizing v with
  | nil => rfl
  | cons name names ih =>
    rw [List.cons_append, follow?, follow?, Option.bind_assoc]
    congr 1
    funext w
    exact ih w

/-- Names lead nowhere from a value without members. -/
theorem follow?_eq_none (hv : v.members = []) {names : List String} (hn : names ≠ []) :
    v.follow? names = none := by
  cases names with
  | nil => exact absurd rfl hn
  | cons name names =>
    rw [follow?, hv]
    rfl

/-- The members of a value, and of every value in it that names lead to, stand in the order of
their keys, each key once. -/
def Ordered (v : Json) : Prop :=
  ∀ names w, v.follow? names = some w → w.members.Pairwise (·.1 < ·.1)

theorem ordered_of_members_eq_nil (hv : v.members = []) : v.Ordered := by
  intro names w hw
  by_cases hn : names = []
  · rw [hn] at hw
    cases hw
    rw [hv]
    exact List.Pairwise.nil
  · rw [follow?_eq_none hv hn] at hw
    cases hw

theorem ordered_iff :
    v.Ordered ↔ v.members.Pairwise (·.1 < ·.1) ∧
      ∀ name w, find? name v.members = some w → w.Ordered := by
  constructor
  · intro h
    refine ⟨h [] v rfl, ?_⟩
    intro name w hw names u hu
    refine h (name :: names) u ?_
    rw [follow?, hw]
    exact hu
  · rintro ⟨hv, hnested⟩ (_ | ⟨name, names⟩) u hu
    · cases hu
      exact hv
    · obtain ⟨w, hw, hu⟩ := Option.bind_eq_some_iff.mp hu
      exact hnested name w hw names u hu

theorem Ordered.insert (hms : (object ms).Ordered) (hv : v.Ordered) (key : String) :
    (object (insert key v ms)).Ordered := by
  rw [ordered_iff] at hms ⊢
  refine ⟨pairwise_insert key v hms.1, ?_⟩
  intro name w hw
  rw [members, find?_insert] at hw
  split at hw
  · cases hw
    exact hv
  · exact hms.2 name w hw

end RecordQuery.Json
