import Mathlib.Data.List.Basic
import RecordQuery.Proofs.Projections.Exactness
import RecordQuery.Proofs.Records.Building
import RecordQuery.Proofs.Records.NormalForm

/-!
# The projection to all scalar members

The projection to all scalar members of a schema takes the name of each as a path. That leads back
to the member if a path of one segment can spell the name. Nothing forbids other names: one with a
point in it leads below a nested record, one with blanks around it leads to the member of the name
without them, and both may lead nowhere.

Results:
* `Path.resolve_name_iff`: the names that lead to their own member.
* `Path.stray_of_resolve_name`: where other names lead.
* `Projection.allScalars_showsScalars_iff`: when the projection has one column for each scalar
  member, and which columns it has otherwise.
-/

namespace RecordQuery

variable {κ : Type} {catalog : Catalog κ} {schema owner : Schema κ} {m : Member κ}

/-! ## Names that paths can spell -/

/-- A name that a path of one segment spells: there is something to it, no white space around it and
no point in it. -/
def PlainName (name : String) : Prop :=
  name ≠ "" ∧ Text.trim name = name ∧ '.' ∉ name.toList

instance (name : String) : Decidable (PlainName name) :=
  inferInstanceAs (Decidable (name ≠ "" ∧ Text.trim name = name ∧ '.' ∉ name.toList))

/-- The path to a member from the record that it belongs to. -/
def Member.path (m : Member κ) : Path (MemberType κ) := ⟨[], m.name, m.type⟩

namespace Path

variable {name segment : String} {segments : List String} {p : Path (MemberType κ)}

theorem split_eq_singleton_iff : split name = [segment] ↔ '.' ∉ name.toList ∧ segment = name := by
  constructor
  · intro h
    have hmem : segment ∈ split name := by
      rw [h]
      exact List.mem_singleton_self _
    have hpoint := point_not_mem_of_mem_split hmem
    have hjoin : ['.'].intercalate (name.toList.splitOn '.') = name.toList :=
      List.intercalate_splitOn '.'
    obtain ⟨cs, hcs, hsegment⟩ := List.map_eq_singleton_iff.mp h
    rw [hcs] at hjoin
    have heq : segment = name := by
      rw [← hsegment, ← String.ofList_toList (s := name), ← hjoin]
      simp
    exact ⟨heq ▸ hpoint, heq⟩
  · rintro ⟨hpoint, rfl⟩
    rw [split, List.splitOn_eq_singleton hpoint, List.map_singleton, String.ofList_toList]

theorem Resolves.eq_member (h : Resolves catalog owner segments p) (hp : p.parents = []) :
    ∃ segment m, segments = [segment] ∧ Names owner segment m ∧ p = m.path := by
  cases h with
  | member hm => exact ⟨_, _, rfl, hm, rfl⟩
  | nested _ _ _ => exact absurd hp (List.cons_ne_nil _ _)

/-- The name of a member leads to that member exactly if it is a plain one. -/
theorem resolve_name_iff (hm : m ∈ schema.members) :
    resolve catalog schema m.name = .ok m.path ↔ PlainName m.name := by
  rw [resolve_eq_ok_iff_resolves]
  constructor
  · intro h
    obtain ⟨segment, x, hsplit, hx, hpath⟩ := h.eq_member rfl
    obtain ⟨hpoint, rfl⟩ := split_eq_singleton_iff.mp hsplit
    have hname : m.name = x.name := congrArg leaf hpath
    have htrim : Text.trim m.name = m.name := by
      refine Text.trim_eq_self_of_eqIgnoringCase ?_ (Text.trim_trim m.name)
      have hspelled := hx.eqIgnoringCase
      rwa [← hname] at hspelled
    have hne := hx.trim_ne
    rw [htrim] at hne
    exact ⟨hne, htrim, hpoint⟩
  · rintro ⟨hne, htrim, hpoint⟩
    rw [split_eq_singleton_iff.mpr ⟨hpoint, rfl⟩]
    refine .member ⟨?_, ?_⟩
    · rwa [htrim]
    · rw [htrim]
      exact Schema.find?_of_mem hm

/-- A path that leads to a member of the record itself leads to one with a plain name. -/
theorem exists_plainName_of_resolve (h : resolve catalog schema name = .ok p)
    (hp : p.parents = []) : ∃ x ∈ schema.members, PlainName x.name ∧ p = x.path := by
  obtain ⟨segment, x, -, hx, rfl⟩ := (resolve_eq_ok_iff_resolves.mp h).eq_member hp
  have htext : x.path.text = x.name := String.intercalate_singleton
  have hname := resolve_text h
  rw [htext, resolve_name_iff hx.mem] at hname
  exact ⟨x, hx.mem, hname, rfl⟩

/-- A name that is no plain one leads below a nested record or to another member, if anywhere. -/
theorem stray_of_resolve_name (hm : m ∈ schema.members) (hplain : ¬PlainName m.name)
    (h : resolve catalog schema m.name = .ok p) :
    p.parents ≠ [] ∨ ∃ x ∈ schema.members, x ≠ m ∧ p = x.path := by
  by_cases hp : p.parents = []
  · obtain ⟨x, hx, -, rfl⟩ := exists_plainName_of_resolve h hp
    refine .inr ⟨x, hx, ?_, rfl⟩
    rintro rfl
    exact hplain ((resolve_name_iff hm).mp h)
  · exact .inl hp

end Path

/-! ## All scalar members -/

/-- The scalar members of a schema. -/
def Schema.scalarMembers (s : Schema κ) : List (Member κ) :=
  s.members.filter (·.type.scalar?.isSome)

theorem Schema.mem_of_mem_scalarMembers (h : m ∈ schema.scalarMembers) : m ∈ schema.members :=
  (List.mem_filter.mp h).1

theorem Schema.exists_scalar_of_mem_scalarMembers (h : m ∈ schema.scalarMembers) :
    ∃ t, m.type = .scalar t := by
  have hscalar := (List.mem_filter.mp h).2
  cases htype : m.type with
  | scalar t => exact ⟨t, rfl⟩
  | _ =>
    rw [htype] at hscalar
    cases hscalar

theorem Member.path_injective :
    Function.Injective (Member.path : Member κ → Path (MemberType κ)) := by
  rintro ⟨name, type⟩ ⟨name', type'⟩ h
  cases h
  rfl

namespace Projection

/-- What it means that a projection shows the scalar members of a schema and nothing else. -/
structure ShowsScalars (p : Projection κ) (s : Schema κ) : Prop where
  /-- There is one column for each scalar member, of its name and type, in their order. -/
  columns : p.columns = s.scalarMembers.map Member.path
  /-- No column is there twice. -/
  nodup : p.columns.Nodup
  /-- Every column is of a scalar type. -/
  scalar : ∀ c ∈ p.columns, ∃ t, c.type = .scalar t
  /-- No column leads below a nested record. -/
  single : ∀ c ∈ p.columns, c.parents = []

theorem showsScalars_of_columns {p : Projection κ}
    (h : p.columns = schema.scalarMembers.map Member.path) : p.ShowsScalars schema where
  columns := h
  nodup := by
    have hmembers : schema.members.Nodup := schema.nodup.of_map _
    rw [h]
    exact (hmembers.filter _).map Member.path_injective
  scalar := by
    rw [h]
    exact List.forall_mem_map.mpr fun m hm => Schema.exists_scalar_of_mem_scalarMembers hm
  single := by
    rw [h]
    exact List.forall_mem_map.mpr fun _ _ => rfl

theorem mem_allScalars_iff {c : Path (MemberType κ)} :
    c ∈ (allScalars catalog schema).columns ↔
      ∃ m ∈ schema.scalarMembers, Path.resolve catalog schema m.name = .ok c := by
  simp only [allScalars, List.mem_filterMap, Schema.scalarMembers, toOption_eq_some_iff]

theorem path_mem_allScalars_iff (hm : m ∈ schema.scalarMembers) :
    m.path ∈ (allScalars catalog schema).columns ↔ PlainName m.name := by
  rw [mem_allScalars_iff]
  constructor
  · rintro ⟨other, -, h⟩
    obtain ⟨x, -, hplain, hpath⟩ := Path.exists_plainName_of_resolve h rfl
    rwa [Member.path_injective hpath]
  · intro hplain
    exact ⟨m, hm, (Path.resolve_name_iff (Schema.mem_of_mem_scalarMembers hm)).mpr hplain⟩

theorem columns_allScalars_eq_iff :
    (allScalars catalog schema).columns = schema.scalarMembers.map Member.path ↔
      ∀ m ∈ schema.scalarMembers, PlainName m.name := by
  refine List.filterMap_eq_map_iff_forall_eq_some.trans (forall₂_congr fun m hm => ?_)
  rw [toOption_eq_some_iff]
  exact Path.resolve_name_iff (Schema.mem_of_mem_scalarMembers hm)

/-- The projection to all scalar members has their columns exactly if all of their names are plain.
Whatever the names, the members with plain ones have their columns, the others do not, and every
further column leads from the name of one of these below a nested record or to another member. -/
theorem allScalars_showsScalars_iff (catalog : Catalog κ) (s : Schema κ) :
    ((allScalars catalog s).ShowsScalars s ↔ ∀ m ∈ s.scalarMembers, PlainName m.name) ∧
      (∀ m ∈ s.scalarMembers, m.path ∈ (allScalars catalog s).columns ↔ PlainName m.name) ∧
      ∀ c ∈ (allScalars catalog s).columns,
        (∃ m ∈ s.scalarMembers, PlainName m.name ∧ c = m.path) ∨
        ∃ m ∈ s.scalarMembers, ¬PlainName m.name ∧ Path.resolve catalog s m.name = .ok c ∧
          (c.parents ≠ [] ∨ ∃ x ∈ s.members, x ≠ m ∧ c = x.path) := by
  refine ⟨?_, fun m hm => path_mem_allScalars_iff hm, fun c hc => ?_⟩
  · rw [← columns_allScalars_eq_iff]
    exact ⟨ShowsScalars.columns, showsScalars_of_columns⟩
  · obtain ⟨m, hm, h⟩ := mem_allScalars_iff.mp hc
    have hmember : m ∈ s.members := Schema.mem_of_mem_scalarMembers hm
    by_cases hplain : PlainName m.name
    · rw [(Path.resolve_name_iff hmember).mpr hplain] at h
      exact .inl ⟨m, hm, hplain, (Except.ok.inj h).symm⟩
    · exact .inr ⟨m, hm, hplain, h, Path.stray_of_resolve_name hmember hplain h⟩

/-- A schema with a name that has a blank in front of it, and one with a point in it. -/
def straySchema : Schema Unit :=
  .ofCalls "Person" [.field "Name" (.scalar .text), .field " Name" (.scalar .int32),
    .object "Manager" (), .field "Manager.Name" (.scalar .bool)]

/-- The name of a person is there twice and the name of the manager once, and two members are
missing. -/
theorem allScalars_straySchema :
    (allScalars (fun _ => straySchema) straySchema).columns =
        [⟨[], "Name", .scalar .text⟩, ⟨[], "Name", .scalar .text⟩,
          ⟨["Manager"], "Name", .scalar .text⟩] ∧
      ¬(allScalars (fun _ => straySchema) straySchema).ShowsScalars straySchema := by
  have hcolumns : (allScalars (fun _ => straySchema) straySchema).columns =
      [⟨[], "Name", .scalar .text⟩, ⟨[], "Name", .scalar .text⟩,
        ⟨["Manager"], "Name", .scalar .text⟩] := rfl
  refine ⟨hcolumns, fun h => ?_⟩
  have hnodup := h.nodup
  rw [hcolumns] at hnodup
  exact absurd hnodup (by decide)

end Projection

end RecordQuery
