import Mathlib.Data.List.Infix
import RecordQuery.Proofs.Records.NormalForm

/-!
# Paths joined by a point

A path that leads to a nested record can be gone on from. With a point and another path behind it,
it leads to the nested record and from there where the other path leads. The two parts are resolved
as if each stood alone, also in how they fail, but that a fault quotes the path as a whole. No path
goes on from a member that is no nested record.

Results:
* `resolveFrom_append`: segments behind those of a path are resolved at the end of it.
* `resolve_append_of_object`: what two paths joined by a point are resolved to.
* `read_join`: reading goes the way of the one path and then of the other.
* `resolve_append`: paths compose.
-/

namespace RecordQuery.Path

variable {κ : Type} {catalog : Catalog κ} {schema owner : Schema κ} {ref : κ}
  {path path' rest segment next : String} {more after : List String}
  {p q : Path (MemberType κ)}

/-! ## One way after the other -/

/-- The way of one path, and then that of another. -/
def join (p q : Path (MemberType κ)) : Path (MemberType κ) :=
  ⟨p.segments ++ q.parents, q.leaf, q.type⟩

theorem segments_join (p q : Path (MemberType κ)) :
    (p.join q).segments = p.segments ++ q.segments :=
  List.append_assoc p.segments q.parents [q.leaf]

theorem read_join (p q : Path (MemberType κ)) (r : Record) :
    (p.join q).read r =
      match r.descend? p.segments with
      | some s => q.read s
      | none => .null := by
  have hway : r.descend? (p.join q).parents =
      (r.descend? p.segments).bind (·.descend? q.parents) :=
    Record.descend?_append r p.segments q.parents
  unfold read
  rw [hway]
  cases r.descend? p.segments <;> rfl

theorem read_of_descend?_eq_none {names : List String} {r : Record} (hnames : names <+: p.parents)
    (hr : r.descend? names = none) : p.read r = .null := by
  obtain ⟨further, hfurther⟩ := hnames
  unfold read
  rw [← hfurther, Record.descend?_append, hr]
  rfl

/-! ## The path that is quoted -/

/-- A failure to resolve a part of a path, as a failure to resolve the path. -/
def quoting (path : String) : QueryError → QueryError
  | .argument _ => .argument (.emptySegment path)
  | err => err

/-- Two failures to resolve a path are of one kind: both are wrong arguments, or both miss the same
member in the same type. -/
inductive FailsAlike : QueryError → QueryError → Prop where
  | argument (cause cause' : ArgumentError) : FailsAlike (.argument cause) (.argument cause')
  | memberNotFound (member typeName : String) :
      FailsAlike (.schema (.memberNotFound member typeName))
        (.schema (.memberNotFound member typeName))

theorem noMember_quoting (path path' typeName segment : String) :
    noMember path' typeName segment = quoting path' (noMember path typeName segment) := by
  unfold noMember
  by_cases hs : Text.trim segment = "" <;> simp [hs, quoting]

theorem failsAlike_noMember (path path' typeName segment : String) :
    FailsAlike (noMember path typeName segment)
      (quoting path' (noMember path typeName segment)) := by
  unfold noMember
  by_cases hs : Text.trim segment = ""
  · simp only [hs, ↓reduceIte]
    exact .argument _ _
  · simp only [hs, ↓reduceIte]
    exact .memberNotFound _ _

theorem memberAt_quoting (path path' : String) (owner : Schema κ) (segment : String) :
    memberAt path' owner segment = (memberAt path owner segment).mapError (quoting path') := by
  unfold memberAt
  by_cases hs : Text.trim segment = ""
  · simp [hs, Except.mapError, ← noMember_quoting]
  · cases hf : owner.find? (Text.trim segment) <;>
      simp [hs, hf, Except.mapError, ← noMember_quoting]

/-- The path that segments belong to has no say in what they are resolved to. -/
theorem resolveFrom_quoting (path path' : String) (owner : Schema κ) (segment : String)
    (more : List String) :
    resolveFrom catalog path' owner segment more =
      (resolveFrom catalog path owner segment more).mapError (quoting path') := by
  induction more generalizing owner segment with
  | nil =>
    rw [resolveFrom, resolveFrom, memberAt_quoting path path']
    cases memberAt path owner segment <;> rfl
  | cons next more ih =>
    rw [resolveFrom, resolveFrom, memberAt_quoting path path']
    cases memberAt path owner segment with
    | error err => rfl
    | ok m =>
      obtain ⟨name, t | ref | typeName⟩ := m
      · exact congrArg Except.error (noMember_quoting path path' _ next)
      · show (resolveFrom catalog path' (catalog ref) next more).map (under name) = _
        rw [ih (catalog ref) next]
        show _ = ((resolveFrom catalog path (catalog ref) next more).map (under name)).mapError _
        cases resolveFrom catalog path (catalog ref) next more <;> rfl
      · exact congrArg Except.error (noMember_quoting path path' _ next)

theorem exists_noMember_of_memberAt {err : QueryError}
    (h : memberAt path owner segment = .error err) :
    ∃ typeName name, err = noMember path typeName name := by
  unfold memberAt at h
  dsimp only at h
  split at h
  · cases h
  · cases h
    exact ⟨owner.name, segment, rfl⟩

/-- Segments are refused for a segment that names no member. -/
theorem exists_noMember_of_resolveFrom {err : QueryError}
    (h : resolveFrom catalog path owner segment more = .error err) :
    ∃ typeName name, err = noMember path typeName name := by
  induction more generalizing owner segment with
  | nil =>
    rw [resolveFrom, map_eq_error_iff] at h
    exact exists_noMember_of_memberAt h
  | cons next more ih =>
    rw [resolveFrom, bind_eq_error_iff] at h
    obtain h | ⟨m, -, h⟩ := h
    · exact exists_noMember_of_memberAt h
    · split at h
      · exact ih (map_eq_error_iff.mp h)
      · cases h
        exact ⟨_, _, rfl⟩

/-- A failure to resolve a path by itself is of one kind with the failure of a path that it is part
of. -/
theorem failsAlike_quoting {err : QueryError} (h : resolve catalog schema path = .error err)
    (path' : String) : FailsAlike err (quoting path' err) := by
  unfold resolve at h
  split at h
  · cases h
    exact .argument _ _
  · split at h
    · cases h
      exact .argument _ _
    · obtain ⟨typeName, name, rfl⟩ := exists_noMember_of_resolveFrom h
      exact failsAlike_noMember _ _ _ _

/-! ## Segments behind a path -/

/-- Behind a path that leads to a nested record, segments are resolved there. Behind another path
there is no member for the next of them. -/
theorem resolveFrom_append (h : resolveFrom catalog path' owner segment more = .ok p) :
    resolveFrom catalog path owner segment (more ++ next :: after) =
      match p.type with
      | .object ref => (resolveFrom catalog path (catalog ref) next after).map p.join
      | type => .error (noMember path (type.name catalog) next) := by
  induction more generalizing owner segment p with
  | nil =>
    obtain ⟨m, hm, rfl⟩ := resolveFrom_nil_eq_ok_iff.mp h
    rw [List.nil_append, resolveFrom, memberAt_quoting path' path, hm]
    rfl
  | cons s more ih =>
    obtain ⟨m, ref, q, hm, href, hq, rfl⟩ := resolveFrom_cons_eq_ok_iff.mp h
    rw [List.cons_append, resolveFrom, memberAt_quoting path' path, hm]
    show (match m.type with
      | .object ref => (resolveFrom catalog path (catalog ref) s (more ++ next :: after)).map _
      | type => _) = _
    rw [href]
    show (resolveFrom catalog path (catalog ref) s (more ++ next :: after)).map (under m.name) = _
    rw [ih hq]
    show _ = match q.type with
      | .object ref' =>
        (resolveFrom catalog path (catalog ref') next after).map (q.under m.name).join
      | type => .error (noMember path (type.name catalog) next)
    cases q.type with
    | object ref' => exact map_map_eq _ q.join (under m.name)
    | _ => rfl

/-! ## Texts joined by a point -/

theorem split_append (path rest : String) :
    split (path ++ "." ++ rest) = split path ++ split rest := by
  have htext : (path ++ "." ++ rest).toList = path.toList ++ '.' :: rest.toList := by simp
  unfold split
  rw [htext, List.splitOn_append_cons_self, List.map_append]

theorem isBlankText_append (path rest : String) :
    Text.isBlankText (path ++ "." ++ rest) = false := by
  have hblank : Text.isBlank '.' = false := by decide
  simp [Text.isBlankText, hblank]

theorem resolve_eq_resolveFrom (hblank : Text.isBlankText path = false)
    (hsplit : split path = segment :: more) :
    resolve catalog schema path = resolveFrom catalog path schema segment more := by
  unfold resolve
  rw [hblank, hsplit]
  rfl

/-- The segments of the other text come behind those of a path that is resolved. -/
theorem resolve_append_eq (h : resolve catalog schema path = .ok p)
    (hrest : split rest = next :: after) :
    resolve catalog schema (path ++ "." ++ rest) =
      match p.type with
      | .object ref =>
        (resolveFrom catalog (path ++ "." ++ rest) (catalog ref) next after).map p.join
      | type => .error (noMember (path ++ "." ++ rest) (type.name catalog) next) := by
  obtain ⟨-, segment, more, hsplit, hp⟩ := resolve_eq_ok_iff.mp h
  have hwhole : split (path ++ "." ++ rest) = segment :: (more ++ next :: after) := by
    rw [split_append, hsplit, hrest]
    rfl
  rw [resolve_eq_resolveFrom (isBlankText_append path rest) hwhole, resolveFrom_append hp]

/-- Behind the path to a nested record, a path is resolved as it is in the nested record. -/
theorem resolve_append_of_object (h : resolve catalog schema path = .ok p)
    (href : p.type = .object ref) (rest : String) :
    resolve catalog schema (path ++ "." ++ rest) =
      ((resolve catalog (catalog ref) rest).mapError (quoting (path ++ "." ++ rest))).map
        p.join := by
  obtain ⟨next, after, hrest⟩ := List.exists_cons_of_ne_nil (split_ne_nil rest)
  rw [resolve_append_eq h hrest, href]
  show (resolveFrom catalog _ (catalog ref) next after).map p.join = _
  congr 1
  by_cases hblank : Text.isBlankText rest = true
  · -- By itself the other path is blank; here it is a segment without a name.
    rw [split_of_isBlankText hblank] at hrest
    cases hrest
    have hnameless : Text.trim rest = "" := Text.trim_eq_empty_iff.mpr hblank
    simp [resolve, resolveFrom, memberAt, noMember, hblank, hnameless, quoting, Except.map,
      Except.mapError]
  · rw [Bool.not_eq_true] at hblank
    rw [resolve_eq_resolveFrom hblank hrest]
    exact resolveFrom_quoting _ _ _ _ _

/-- Behind the path to another member, no path is resolved. -/
theorem resolve_append_of_not_object (h : resolve catalog schema path = .ok p)
    (hobject : ∀ ref, p.type ≠ .object ref) (hrest : split rest = next :: after) :
    resolve catalog schema (path ++ "." ++ rest) =
      .error (noMember (path ++ "." ++ rest) (p.type.name catalog) next) := by
  rw [resolve_append_eq h hrest]
  split
  · next ref href => exact absurd href (hobject ref)
  · rfl

/-! ## Composition -/

/-- A path leads on from the end of another one. -/
structure LeadsOn (p q whole : Path (MemberType κ)) : Prop where
  segments : whole.segments = p.segments ++ q.segments
  type : whole.type = q.type
  /-- From the nested record at the end of the one path, the rest is read as the other path. -/
  read : ∀ r s, r.descend? p.segments = some s → whole.read r = q.read s
  /-- If any record on the way is missing, null is read. -/
  missing : ∀ r names, names <+: whole.parents → r.descend? names = none → whole.read r = .null

theorem leadsOn_join (p q : Path (MemberType κ)) : LeadsOn p q (p.join q) where
  segments := segments_join p q
  type := rfl
  read r s hs := by rw [read_join, hs]
  missing r names hnames hr := read_of_descend?_eq_none hnames hr

/-- Paths compose. Behind the path to a nested record, another path is resolved exactly if it is by
itself in the nested schema; it leads on from there, or fails in the same way. Behind the path to
another member, every path fails at its first segment. -/
theorem resolve_append (h : resolve catalog schema path = .ok p) (rest : String) :
    (∀ ref, p.type = .object ref →
      ((∃ whole, resolve catalog schema (path ++ "." ++ rest) = .ok whole) ↔
          ∃ q, resolve catalog (catalog ref) rest = .ok q) ∧
        (∀ q whole, resolve catalog (catalog ref) rest = .ok q →
          resolve catalog schema (path ++ "." ++ rest) = .ok whole → LeadsOn p q whole) ∧
        ∀ err err', resolve catalog (catalog ref) rest = .error err →
          resolve catalog schema (path ++ "." ++ rest) = .error err' → FailsAlike err err') ∧
    ((∀ ref, p.type ≠ .object ref) → ∃ first others, split rest = first :: others ∧
      resolve catalog schema (path ++ "." ++ rest) = .error
        (if Text.isBlankText first then .argument (.emptySegment (path ++ "." ++ rest))
          else .schema (.memberNotFound (Text.trim first) (p.type.name catalog)))) := by
  refine ⟨fun ref href => ?_, fun hobject => ?_⟩
  · rw [resolve_append_of_object h href rest]
    cases hrest : resolve catalog (catalog ref) rest with
    | ok q =>
      refine ⟨iff_of_true ⟨_, rfl⟩ ⟨_, rfl⟩, fun q' whole hq hwhole => ?_, fun err err' herr => ?_⟩
      · cases hq
        cases hwhole
        exact leadsOn_join p q
      · cases herr
    | error err =>
      refine ⟨iff_of_false ?_ ?_, fun q whole hq => ?_, fun err' err'' herr herr' => ?_⟩
      · rintro ⟨whole, hwhole⟩
        cases hwhole
      · rintro ⟨q, hq⟩
        cases hq
      · cases hq
      · cases herr
        cases herr'
        exact failsAlike_quoting hrest _
  · obtain ⟨first, others, hrest⟩ := List.exists_cons_of_ne_nil (split_ne_nil rest)
    refine ⟨first, others, hrest, ?_⟩
    rw [resolve_append_of_not_object h hobject hrest]
    unfold noMember
    simp only [Text.trim_eq_empty_iff]

theorem resolve_managersManager :
    (∃ whole, resolve Person.catalog Person.schema "manager.Manager.age" = .ok whole ∧
        LeadsOn ⟨[], "Manager", .object ()⟩ ⟨["Manager"], "Age", .scalar .int32⟩ whole) ∧
      resolve Person.catalog Person.schema "age. Years.Months" =
        .error (.schema (.memberNotFound "Years" "i32")) := by
  have hmanager : resolve Person.catalog Person.schema "manager" =
      .ok ⟨[], "Manager", .object ()⟩ := rfl
  have hage : resolve Person.catalog Person.schema "age" = .ok ⟨[], "Age", .scalar .int32⟩ := rfl
  constructor
  · obtain ⟨hiff, hleads, -⟩ := (resolve_append hmanager "Manager.age").1 () rfl
    obtain ⟨whole, hwhole⟩ := hiff.mpr ⟨_, rfl⟩
    exact ⟨whole, hwhole, hleads _ whole rfl hwhole⟩
  · have hscalar : ∀ ref : Unit, (.scalar .int32 : MemberType Unit) ≠ .object ref := by
      intro ref h
      cases h
    obtain ⟨first, others, hrest, hfails⟩ := (resolve_append hage " Years.Months").2 hscalar
    have hsplit : split " Years.Months" = [" Years", "Months"] := by decide +kernel
    rw [hsplit] at hrest
    cases hrest
    exact hfails

end RecordQuery.Path
