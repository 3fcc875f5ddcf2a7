import Mathlib.Data.List.Infix
import RecordQuery.Proofs.Records.Resolution

/-!
# Declared paths

The paths that a schema has: to its members, and below its nested records to the members of theirs,
however deep. Schemas may refer to themselves, so a schema may have paths of every length.

Results:
* `declared_of_resolve`: what a path resolves to is a declared path.
* `Declared.eq_of_isPrefix`: no declared path goes on from a scalar member.
-/

namespace RecordQuery.Path

variable {κ : Type} {catalog : Catalog κ} {schema : Schema κ} {p q : Path (MemberType κ)}

/-! ## Names along a path -/

theorem segments_ne_nil (p : Path (MemberType κ)) : p.segments ≠ [] :=
  List.append_ne_nil_of_right_ne_nil _ (List.cons_ne_nil _ _)

theorem parents_prefix_segments (p : Path (MemberType κ)) : p.parents <+: p.segments :=
  List.prefix_append p.parents [p.leaf]

theorem prefix_segments_iff {names : List String} :
    names <+: p.segments ↔ names = p.segments ∨ names <+: p.parents :=
  List.prefix_concat_iff

/-! ## Declared paths -/

/-- A path to a member of a schema, or below a nested record to a member of its schema. -/
inductive Declared (catalog : Catalog κ) : Schema κ → Path (MemberType κ) → Prop where
  | member {owner : Schema κ} {m : Member κ} (hm : m ∈ owner.members) :
      Declared catalog owner ⟨[], m.name, m.type⟩
  | under {owner : Schema κ} {m : Member κ} {ref : κ} {q : Path (MemberType κ)}
      (hm : m ∈ owner.members) (href : m.type = .object ref)
      (hq : Declared catalog (catalog ref) q) : Declared catalog owner (q.under m.name)

theorem declared_of_resolve {path : String} (h : resolve catalog schema path = .ok p) :
    Declared catalog schema p :=
  resolve_induction (fun _ _ hm => .member hm) (fun _ _ _ _ hm href hq => .under hm href hq) h

/-- A member is known by its name, so two declared paths go the same way as long as their segments
are the same, and a scalar member has no members that a path could go on to. -/
theorem Declared.eq_of_isPrefix (hp : Declared catalog schema p) (hq : Declared catalog schema q)
    {t : ScalarType} (ht : p.type = .scalar t) (h : p.segments <+: q.segments) : p = q := by
  induction hp generalizing q with
  | @member owner m hm =>
    cases hq with
    | @member _ m' hm' =>
      have hname : m.name = m'.name := (List.cons_prefix_cons.mp h).1
      rw [Schema.eq_of_mem_of_name_eq hm hm' hname]
    | @under _ m' ref q hm' href hq =>
      have hname : m.name = m'.name := (List.cons_prefix_cons.mp h).1
      have heq : m = m' := Schema.eq_of_mem_of_name_eq hm hm' hname
      rw [heq, href] at ht
      cases ht
  | @under owner m ref p hm href hp ih =>
    cases hq with
    | @member _ m' hm' =>
      have hnil : p.segments <+: [] := (List.cons_prefix_cons.mp h).2
      exact absurd (List.prefix_nil.mp hnil) p.segments_ne_nil
    | @under _ m' ref' q hm' href' hq =>
      obtain ⟨hname, hmore⟩ := List.cons_prefix_cons.mp h
      have heq : m = m' := Schema.eq_of_mem_of_name_eq hm hm' hname
      subst heq
      rw [href] at href'
      cases href'
      rw [ih hq ht hmore]

end RecordQuery.Path
