import RecordQuery.Proofs.Records.Resolution

/-!
# Refused paths

Why a path is not resolved. Most paths are refused because the schema has no such member; a path is
a wrong argument only if its segments lead to one without a name, and then whatever follows is not
looked at.

Results:
* `resolveFrom_eq_argument_iff`, `resolve_eq_argument_iff`: the paths that are wrong arguments.
* `resolve_ne_argument`: a path whose segments all have names is never one.
-/

namespace RecordQuery

namespace Path

variable {κ : Type} {catalog : Catalog κ} {schema owner : Schema κ}
  {path segment next : String} {more : List String} {cause : ArgumentError}

/-- Segments that lead into a schema: each names a member, and each but the last a nested record. -/
inductive Leads (catalog : Catalog κ) : Schema κ → List String → Prop where
  | nil (owner : Schema κ) : Leads catalog owner []
  | member {owner : Schema κ} {segment : String} {m : Member κ} (hname : Text.trim segment ≠ "")
      (hm : owner.find? (Text.trim segment) = some m) : Leads catalog owner [segment]
  | nested {owner : Schema κ} {segment next : String} {more : List String} {m : Member κ} {ref : κ}
      (hname : Text.trim segment ≠ "") (hm : owner.find? (Text.trim segment) = some m)
      (href : m.type = .object ref) (hmore : Leads catalog (catalog ref) (next :: more)) :
      Leads catalog owner (segment :: next :: more)

/-- Segments that stop at one without a name: those before it lead into the schema. -/
def StopsNameless (catalog : Catalog κ) (schema : Schema κ) (segments : List String) : Prop :=
  ∃ good nameless rest, segments = good ++ nameless :: rest ∧ Leads catalog schema good ∧
    Text.trim nameless = ""

/-! ## One segment -/

theorem noMember_eq_argument_iff {typeName : String} :
    noMember path typeName segment = .argument cause ↔
      Text.trim segment = "" ∧ cause = .emptySegment path := by
  unfold noMember
  by_cases hs : Text.trim segment = ""
  · simp [hs, eq_comm]
  · simp [hs]

theorem memberAt_eq_argument_iff :
    memberAt path owner segment = .error (.argument cause) ↔
      Text.trim segment = "" ∧ cause = .emptySegment path := by
  unfold memberAt
  by_cases hs : Text.trim segment = ""
  · simp [hs, noMember_eq_argument_iff]
  · simp only [hs, ↓reduceIte, false_and, iff_false]
    split
    · simp
    · simp [noMember_eq_argument_iff, hs]

theorem stopsNameless_cons_of_trim_eq (h : Text.trim segment = "") :
    StopsNameless catalog owner (segment :: more) :=
  ⟨[], segment, more, rfl, .nil owner, h⟩

/-- Behind a segment with a name, a path stops where the rest of it does. -/
theorem stopsNameless_cons_iff (h : Text.trim segment ≠ "") :
    StopsNameless catalog owner (segment :: more) ↔ ∃ m,
      owner.find? (Text.trim segment) = some m ∧ ∃ next rest, more = next :: rest ∧
        (Text.trim next = "" ∨
          ∃ ref, m.type = .object ref ∧ StopsNameless catalog (catalog ref) more) := by
  constructor
  · rintro ⟨_ | ⟨s, good⟩, nameless, rest, hsplit, hgood, hnameless⟩
    · cases hsplit
      exact absurd hnameless h
    · cases hsplit
      cases hgood with
      | member _ hm => exact ⟨_, hm, nameless, rest, rfl, .inl hnameless⟩
      | nested _ hm href hmore =>
        exact ⟨_, hm, _, _, rfl, .inr ⟨_, href, _, nameless, rest, rfl, hmore, hnameless⟩⟩
  · rintro ⟨m, hm, next, rest, rfl, hnext | ⟨ref, href, good, nameless, rest', hsplit, hgood, hnl⟩⟩
    · exact ⟨[segment], next, rest, rfl, .member h hm, hnext⟩
    · refine ⟨segment :: good, nameless, rest', by rw [hsplit]; rfl, ?_, hnl⟩
      cases good with
      | nil => exact .member h hm
      | cons s good => exact .nested h hm href hgood

/-! ## Whole paths -/

theorem resolveFrom_eq_argument_iff :
    resolveFrom catalog path owner segment more = .error (.argument cause) ↔
      StopsNameless catalog owner (segment :: more) ∧ cause = .emptySegment path := by
  induction more generalizing owner segment with
  | nil =>
    rw [resolveFrom, map_eq_error_iff, memberAt_eq_argument_iff]
    by_cases hs : Text.trim segment = ""
    · simp [hs, stopsNameless_cons_of_trim_eq hs]
    · simp [hs, stopsNameless_cons_iff hs]
  | cons next more ih =>
    rw [resolveFrom, bind_eq_error_iff, memberAt_eq_argument_iff]
    by_cases hs : Text.trim segment = ""
    · simp [hs, stopsNameless_cons_of_trim_eq hs, memberAt_eq_ok_iff]
    · rw [stopsNameless_cons_iff hs]
      constructor
      · rintro (⟨hs', -⟩ | ⟨m, hm, h⟩)
        · exact absurd hs' hs
        · have hfind := (memberAt_eq_ok_iff.mp hm).2
          split at h
          · next ref href =>
            obtain ⟨hmore, hcause⟩ := ih.mp (map_eq_error_iff.mp h)
            exact ⟨⟨m, hfind, next, more, rfl, .inr ⟨ref, href, hmore⟩⟩, hcause⟩
          · obtain ⟨hnext, hcause⟩ := noMember_eq_argument_iff.mp (Except.error.inj h)
            exact ⟨⟨m, hfind, next, more, rfl, .inl hnext⟩, hcause⟩
      · rintro ⟨⟨m, hfind, _, _, hsplit, h⟩, hcause⟩
        cases hsplit
        refine .inr ⟨m, memberAt_eq_ok_iff.mpr ⟨hs, hfind⟩, ?_⟩
        split
        · next ref href =>
          refine map_eq_error_iff.mpr (ih.mpr ⟨?_, hcause⟩)
          obtain hnext | ⟨ref', href', hmore⟩ := h
          · exact stopsNameless_cons_of_trim_eq hnext
          · rw [href] at href'
            cases href'
            exact hmore
        · next hobject =>
          obtain hnext | ⟨ref, href, -⟩ := h
          · exact congrArg Except.error (noMember_eq_argument_iff.mpr ⟨hnext, hcause⟩)
          · exact absurd href (hobject ref)

theorem split_ne_nil (path : String) : split path ≠ [] := by
  unfold split
  rw [Ne, List.map_eq_nil_iff]
  exact List.splitOn_ne_nil _ _

theorem split_of_isBlankText (h : Text.isBlankText path = true) : split path = [path] := by
  have hpoint : '.' ∉ path.toList := by
    intro hmem
    have hblank : Text.isBlank '.' = true := List.all_eq_true.mp h '.' hmem
    revert hblank
    decide
  unfold split
  rw [List.splitOn_eq_singleton hpoint, List.map_singleton, String.ofList_toList]

/-- A blank path is one segment without a name. -/
theorem stopsNameless_split_of_isBlankText (h : Text.isBlankText path = true) :
    StopsNameless catalog schema (split path) := by
  rw [split_of_isBlankText h]
  exact stopsNameless_cons_of_trim_eq (Text.trim_eq_empty_iff.mpr h)

/-- A path is a wrong argument exactly if it stops at a segment without a name. -/
theorem resolve_eq_argument_iff :
    resolve catalog schema path = .error (.argument cause) ↔
      StopsNameless catalog schema (split path) ∧
        cause = if Text.isBlankText path then .blankPath else .emptySegment path := by
  unfold resolve
  by_cases hblank : Text.isBlankText path = true
  · simp [hblank, stopsNameless_split_of_isBlankText hblank, eq_comm]
  · rw [if_neg hblank, if_neg hblank]
    split
    · next hnil => exact absurd hnil (split_ne_nil path)
    · next segment more hsplit => rw [resolveFrom_eq_argument_iff, hsplit]

theorem resolve_ne_argument (h : ∀ segment ∈ split path, Text.trim segment ≠ "") :
    resolve catalog schema path ≠ .error (.argument cause) := by
  intro hargument
  obtain ⟨⟨good, nameless, rest, hsplit, -, hnameless⟩, -⟩ := resolve_eq_argument_iff.mp hargument
  refine h nameless ?_ hnameless
  rw [hsplit]
  exact List.mem_append_right _ List.mem_cons_self

end Path

end RecordQuery
