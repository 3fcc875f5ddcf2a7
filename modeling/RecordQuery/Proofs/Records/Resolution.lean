import RecordQuery.Plan.Path
import RecordQuery.Proofs.FirstFailure

/-!
# Resolved paths

What it means that a path is resolved: every segment names a member of the schema it is looked up
in, every one but the last a nested record, and the path is made of the names of these members.

Results:
* `memberAt_eq_ok_iff`: the member that a segment names.
* `resolveFrom_cons_eq_ok_iff`: a path of several segments goes through a nested record.
* `resolve_induction`: what holds of single members, and above a nested record if it holds in it,
  holds of every resolved path.
-/

namespace RecordQuery

variable {κ : Type} {catalog : Catalog κ} {schema owner : Schema κ}

theorem Schema.mem_of_find? {name : String} {m : Member κ} (h : schema.find? name = some m) :
    m ∈ schema.members := by
  rw [find?, Option.orElse_apply, Option.orElse_eq_or, Option.or_eq_some_iff] at h
  rcases h with h | ⟨-, h⟩
  · exact List.mem_of_find?_eq_some h
  · exact List.mem_of_find?_eq_some h

namespace Path

variable {path segment next : String} {more : List String}

theorem memberAt_eq_ok_iff {m : Member κ} :
    memberAt path owner segment = .ok m ↔
      Text.trim segment ≠ "" ∧ owner.find? (Text.trim segment) = some m := by
  unfold memberAt
  by_cases hs : Text.trim segment = ""
  · simp [hs]
  · cases hf : owner.find? (Text.trim segment) <;> simp [hs, hf]

theorem resolveFrom_nil_eq_ok_iff {p : Path (MemberType κ)} :
    resolveFrom catalog path owner segment [] = .ok p ↔
      ∃ m, memberAt path owner segment = .ok m ∧ p = ⟨[], m.name, m.type⟩ := by
  rw [resolveFrom, map_eq_ok_iff]
  simp only [eq_comm]

theorem resolveFrom_cons_eq_ok_iff {p : Path (MemberType κ)} :
    resolveFrom catalog path owner segment (next :: more) = .ok p ↔
      ∃ m ref q, memberAt path owner segment = .ok m ∧ m.type = .object ref ∧
        resolveFrom catalog path (catalog ref) next more = .ok q ∧ p = q.under m.name := by
  rw [resolveFrom, bind_eq_ok_iff]
  constructor
  · rintro ⟨m, hm, h⟩
    split at h
    · next ref href =>
      obtain ⟨q, hq, rfl⟩ := map_eq_ok_iff.mp h
      exact ⟨m, ref, q, hm, href, hq, rfl⟩
    · cases h
  · rintro ⟨m, ref, q, hm, href, hq, rfl⟩
    refine ⟨m, hm, ?_⟩
    rw [href]
    exact map_eq_ok_iff.mpr ⟨q, hq, rfl⟩

theorem resolve_eq_ok_iff {p : Path (MemberType κ)} :
    resolve catalog schema path = .ok p ↔
      Text.isBlankText path = false ∧ ∃ segment more, split path = segment :: more ∧
        resolveFrom catalog path schema segment more = .ok p := by
  unfold resolve
  by_cases hb : Text.isBlankText path = true
  · simp [hb]
  · cases hs : split path <;> simp [hb]

/-- Resolved paths are built from single members, by going below nested records. -/
theorem resolve_induction {motive : Schema κ → Path (MemberType κ) → Prop}
    (member : ∀ owner m, m ∈ owner.members → motive owner ⟨[], m.name, m.type⟩)
    (under : ∀ owner m ref q, m ∈ owner.members → m.type = .object ref → motive (catalog ref) q →
      motive owner (q.under m.name))
    {p : Path (MemberType κ)} (h : resolve catalog schema path = .ok p) : motive schema p := by
  obtain ⟨-, segment, more, -, hp⟩ := resolve_eq_ok_iff.mp h
  clear h
  induction more generalizing schema segment p with
  | nil =>
    obtain ⟨m, hm, rfl⟩ := resolveFrom_nil_eq_ok_iff.mp hp
    exact member schema m (Schema.mem_of_find? (memberAt_eq_ok_iff.mp hm).2)
  | cons next more ih =>
    obtain ⟨m, ref, q, hm, href, hq, rfl⟩ := resolveFrom_cons_eq_ok_iff.mp hp
    exact under schema m ref q (Schema.mem_of_find? (memberAt_eq_ok_iff.mp hm).2) href (ih next hq)

end Path

end RecordQuery
