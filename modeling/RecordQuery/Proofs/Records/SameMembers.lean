import RecordQuery.Plan.Path

/-!
# Lists of paths to the same members

Two lists of paths may differ in their order, in how often a path is listed and in how it is spelled
and still lead to the same members of a schema. What is known of the members that some path of a
list leads to, or that all do, is then the same for both.

Results:
* `SameMembers.of_mem_iff`, `SameMembers.of_map_eq`: other orders, repetitions and other spellings.
* `SameMembers.exists_iff`, `SameMembers.forall_iff`: what holds of the members.
-/

namespace RecordQuery.Path

variable {κ : Type} {catalog : Catalog κ} {schema : Schema κ}

/-- Two lists of paths lead to the same members. -/
def SameMembers (catalog : Catalog κ) (schema : Schema κ) (listed listed' : List String) : Prop :=
  ∀ member, member ∈ listed.map (resolve catalog schema) ↔
    member ∈ listed'.map (resolve catalog schema)

namespace SameMembers

variable {path : String} {listed listed' listed'' : List String} {P : String → Prop}

theorem symm (h : SameMembers catalog schema listed listed') :
    SameMembers catalog schema listed' listed :=
  fun member => (h member).symm

theorem trans (h : SameMembers catalog schema listed listed')
    (h' : SameMembers catalog schema listed' listed'') :
    SameMembers catalog schema listed listed'' :=
  fun member => (h member).trans (h' member)

/-- Paths may be listed in another order, and more often. -/
theorem of_mem_iff (h : ∀ path, path ∈ listed ↔ path ∈ listed') :
    SameMembers catalog schema listed listed' := by
  intro member
  simp only [List.mem_map, h]

/-- Paths may be spelled in another way, one by one. -/
theorem of_map_eq (h : listed'.map (resolve catalog schema) = listed.map (resolve catalog schema)) :
    SameMembers catalog schema listed listed' := by
  intro member
  rw [h]

theorem exists_resolve_eq (h : SameMembers catalog schema listed listed') (hpath : path ∈ listed) :
    ∃ path' ∈ listed', resolve catalog schema path' = resolve catalog schema path :=
  List.mem_map.mp ((h _).mp (List.mem_map_of_mem hpath))

section

variable (h : SameMembers catalog schema listed listed')
  (hP : ∀ a b, resolve catalog schema b = resolve catalog schema a → (P b ↔ P a))

include h hP

theorem exists_iff : (∃ b ∈ listed', P b) ↔ ∃ a ∈ listed, P a := by
  constructor
  · rintro ⟨b, hb, hPb⟩
    obtain ⟨a, ha, hresolve⟩ := h.symm.exists_resolve_eq hb
    exact ⟨a, ha, (hP b a hresolve).mpr hPb⟩
  · rintro ⟨a, ha, hPa⟩
    obtain ⟨b, hb, hresolve⟩ := h.exists_resolve_eq ha
    exact ⟨b, hb, (hP a b hresolve).mpr hPa⟩

theorem forall_iff : (∀ b ∈ listed', P b) ↔ ∀ a ∈ listed, P a := by
  constructor
  · intro hall a ha
    obtain ⟨b, hb, hresolve⟩ := h.exists_resolve_eq ha
    exact (hP a b hresolve).mp (hall b hb)
  · intro hall b hb
    obtain ⟨a, ha, hresolve⟩ := h.symm.exists_resolve_eq hb
    exact (hP b a hresolve).mp (hall a ha)

end

theorem eq_nil_iff (h : SameMembers catalog schema listed listed') :
    listed' = [] ↔ listed = [] := by
  rw [List.eq_nil_iff_forall_not_mem, List.eq_nil_iff_forall_not_mem]
  exact h.forall_iff fun _ _ _ => Iff.rfl

end SameMembers

end RecordQuery.Path
