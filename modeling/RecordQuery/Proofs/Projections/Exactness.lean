import Mathlib.Data.List.Nodup
import RecordQuery.Proofs.Projections.Insertion
import RecordQuery.Proofs.Records.Declared
import RecordQuery.Proofs.Records.WellTyped
import RecordQuery.Query.Search

/-!
# Projections are exact

A compiled projection shows every one of its columns at the place of its path, and nothing else. The
columns are put into one object after another; as no column goes on from another, none of them comes
in the way of those put there before, and their order does not matter.

Results:
* `compile_eq_ok_iff`: the lists of paths that are accepted, and their columns.
* `apart_columns`: of two columns, neither goes on from the other.
* `follow?_project_segments`, `follow?_project_parents`, `exists_column_of_follow?`: what names
  lead to in the object shown.
* `exact_of_compile`: a compiled projection is exact, and its objects depend only on which columns
  it has.
* `compile_respelled`: paths that resolve to the same, in any order and number, show the same.
-/

namespace RecordQuery

variable {κ : Type} {catalog : Catalog κ} {schema : Schema κ}

/-- Neither path goes on from the other; so they are also different. -/
def Path.Apart {τ : Type} (p q : Path τ) : Prop :=
  ¬p.segments <+: q.segments ∧ ¬q.segments <+: p.segments

namespace Projection

open Json (follow?_append follow?_eq_none)

/-! ## Columns -/

theorem column_eq_ok_iff {path : String} {c : Column} :
    column catalog schema path = .ok c ↔
      Path.resolve catalog schema path = .ok (c.withType (.scalar c.type)) := by
  unfold column
  rw [bind_eq_ok_iff]
  constructor
  · rintro ⟨⟨parents, leaf, type⟩, hp, h⟩
    cases type with
    | scalar t =>
      cases h
      exact hp
    | _ => cases h
  · intro h
    exact ⟨_, h, rfl⟩

theorem compile_eq_ok_iff {paths : List String} {p : Projection κ} :
    compile catalog schema paths = .ok p ↔ ∃ cs, paths.mapM (column catalog schema) = .ok cs ∧
      p.columns = cs.eraseDups.map fun c => c.withType (.scalar c.type) := by
  unfold compile
  rw [bind_eq_ok_iff]
  constructor
  · rintro ⟨cs, hcs, h⟩
    cases h
    exact ⟨cs, hcs, rfl⟩
  · rintro ⟨cs, hcs, h⟩
    refine ⟨cs, hcs, ?_⟩
    rw [← h]
    rfl

variable {paths paths' : List String} {p p' : Projection κ}

theorem exists_compile_eq_ok_iff :
    (∃ p, compile catalog schema paths = .ok p) ↔
      ∀ path ∈ paths, ∃ c, column catalog schema path = .ok c := by
  rw [← exists_mapM_eq_ok_iff]
  constructor
  · rintro ⟨p, h⟩
    obtain ⟨cs, hcs, -⟩ := compile_eq_ok_iff.mp h
    exact ⟨cs, hcs⟩
  · rintro ⟨cs, hcs⟩
    exact ⟨⟨_⟩, compile_eq_ok_iff.mpr ⟨cs, hcs, rfl⟩⟩

/-- The columns are what the paths resolve to. -/
theorem mem_columns_iff (h : compile catalog schema paths = .ok p) {c : Path (MemberType κ)} :
    c ∈ p.columns ↔ ∃ path ∈ paths, Path.resolve catalog schema path = .ok c := by
  obtain ⟨cs, hcs, hcolumns⟩ := compile_eq_ok_iff.mp h
  simp only [hcolumns, List.mem_map, List.mem_eraseDups, mem_mapM_iff hcs, column_eq_ok_iff]
  constructor
  · rintro ⟨c', ⟨path, hpath, hc'⟩, rfl⟩
    exact ⟨path, hpath, hc'⟩
  · rintro ⟨path, hpath, hc⟩
    obtain ⟨c', hc'⟩ := exists_mapM_eq_ok_iff.mp ⟨cs, hcs⟩ path hpath
    rw [column_eq_ok_iff] at hc'
    refine ⟨c', ⟨path, hpath, hc'⟩, ?_⟩
    rw [hc] at hc'
    cases hc'
    rfl

theorem nodup_columns (h : compile catalog schema paths = .ok p) : p.columns.Nodup := by
  obtain ⟨cs, -, hcolumns⟩ := compile_eq_ok_iff.mp h
  have hinj : Function.Injective fun c : Column =>
      (c.withType (.scalar c.type) : Path (MemberType κ)) := by
    rintro ⟨parents, leaf, type⟩ ⟨parents', leaf', type'⟩ heq
    cases heq
    rfl
  rw [hcolumns]
  exact List.Nodup.map hinj (nodup_eraseDups cs)

theorem scalar_of_mem_columns (h : compile catalog schema paths = .ok p)
    {c : Path (MemberType κ)} (hc : c ∈ p.columns) : ∃ t, c.type = .scalar t := by
  obtain ⟨cs, hcs, hcolumns⟩ := compile_eq_ok_iff.mp h
  rw [hcolumns, List.mem_map] at hc
  obtain ⟨c', -, rfl⟩ := hc
  exact ⟨c'.type, rfl⟩

/-- Two columns of a compiled projection do not go on from each other. -/
theorem apart_of_mem_columns (h : compile catalog schema paths = .ok p)
    {c d : Path (MemberType κ)} (hc : c ∈ p.columns) (hd : d ∈ p.columns) (hne : c ≠ d) :
    c.Apart d := by
  have hdeclared : ∀ e ∈ p.columns, Path.Declared catalog schema e := by
    intro e he
    obtain ⟨path, -, hpath⟩ := (mem_columns_iff h).mp he
    exact Path.declared_of_resolve hpath
  obtain ⟨s, hs⟩ := scalar_of_mem_columns h hc
  obtain ⟨t, ht⟩ := scalar_of_mem_columns h hd
  constructor
  · intro hprefix
    exact hne ((hdeclared c hc).eq_of_isPrefix (hdeclared d hd) hs hprefix)
  · intro hprefix
    exact hne ((hdeclared d hd).eq_of_isPrefix (hdeclared c hc) ht hprefix).symm

theorem apart_columns (h : compile catalog schema paths = .ok p) :
    p.columns.Pairwise Path.Apart :=
  (nodup_columns h).imp_of_mem fun hc hd hne => apart_of_mem_columns h hc hd hne

/-! ## What is shown -/

variable {cs : List (Path (MemberType κ))} {c d : Path (MemberType κ)} {r : Record}
  {names : List String} {v : Json}

/-- The object of one more column is the object before with the value of the column put in. -/
theorem project_concat (cs : List (Path (MemberType κ))) (c : Path (MemberType κ)) (r : Record) :
    (mk (cs ++ [c])).project r =
      .object (insertAt c.parents c.leaf (c.read r).toJson ((mk cs).project r).members) := by
  rw [project, List.foldl_append]
  rfl

theorem follow?_project_concat_self (cs : List (Path (MemberType κ))) (c : Path (MemberType κ))
    (r : Record) : ((mk (cs ++ [c])).project r).follow? c.segments = some (c.read r).toJson := by
  rw [project_concat]
  exact follow?_insertAt_self c.parents c.leaf _ _

/-- One more column changes nothing where it does not lead. -/
theorem follow?_project_concat_of_apart (h : ¬names <+: c.segments) (h' : ¬c.segments <+: names) :
    ((mk (cs ++ [c])).project r).follow? names = ((mk cs).project r).follow? names := by
  rw [project_concat, follow?_insertAt_of_apart h h']
  rfl

theorem follow?_project_segments (hcs : cs.Pairwise Path.Apart) (hc : c ∈ cs) :
    ((mk cs).project r).follow? c.segments = some (c.read r).toJson := by
  induction cs using List.reverseRecOn with
  | nil => cases hc
  | append_singleton cs d ih =>
    obtain ⟨hcs, -, hd⟩ := List.pairwise_append.mp hcs
    rcases List.mem_append.mp hc with hc | hc
    · obtain ⟨hcd, hdc⟩ := hd c hc d (List.mem_singleton_self d)
      rw [follow?_project_concat_of_apart hcd hdc]
      exact ih hcs hc
    · rw [List.mem_singleton.mp hc]
      exact follow?_project_concat_self cs d r

theorem follow?_project_parents (hcs : cs.Pairwise Path.Apart) (hc : c ∈ cs)
    (hnames : names <+: c.parents) :
    ∃ inner, ((mk cs).project r).follow? names = some (.object inner) := by
  induction cs using List.reverseRecOn with
  | nil => cases hc
  | append_singleton cs d ih =>
    obtain ⟨hcs, -, hd⟩ := List.pairwise_append.mp hcs
    -- the names may be on the way to the new column as well, which puts an object there itself
    by_cases hparents : names <+: d.parents
    · rw [project_concat]
      exact follow?_insertAt_parents hparents
    · rcases List.mem_append.mp hc with hc | hc
      · obtain ⟨-, hdc⟩ := hd c hc d (List.mem_singleton_self d)
        have hsegments : names <+: c.segments := hnames.trans c.parents_prefix_segments
        have hd : ¬names <+: d.segments := by
          intro h
          rcases Path.prefix_segments_iff.mp h with h | h
          · rw [h] at hsegments
            exact hdc hsegments
          · exact hparents h
        rw [follow?_project_concat_of_apart hd fun h => hdc (h.trans hsegments)]
        exact ih hcs hc
      · rw [List.mem_singleton.mp hc] at hnames
        exact absurd hnames hparents

theorem members_ofDouble (x : Binary .double) : (Value.ofDouble x).members = [] := by
  unfold Value.ofDouble
  split <;> rfl

theorem members_toJson (v : Value) : v.toJson.members = [] := by
  cases v with
  | float32 x => exact members_ofDouble _
  | float64 x => exact members_ofDouble x
  | _ => rfl

/-- Nothing stands below the value of a column that was put in last. -/
theorem not_prefix_of_follow? (hd : ¬names <+: d.segments)
    (h : ((mk (cs ++ [d])).project r).follow? names = some v) : ¬d.segments <+: names := by
  rintro ⟨more, rfl⟩
  have hmore : more ≠ [] := by
    rintro rfl
    rw [List.append_nil] at hd
    exact hd (List.prefix_refl _)
  rw [follow?_append, follow?_project_concat_self, Option.bind_some,
    follow?_eq_none (members_toJson _) hmore] at h
  cases h

/-- Names that lead anywhere are on the way to a column. -/
theorem exists_column_of_follow? (hnames : names ≠ [])
    (h : ((mk cs).project r).follow? names = some v) : ∃ c ∈ cs, names <+: c.segments := by
  induction cs using List.reverseRecOn with
  | nil =>
    rw [follow?_eq_none rfl hnames] at h
    cases h
  | append_singleton cs d ih =>
    by_cases hd : names <+: d.segments
    · exact ⟨d, List.mem_append_right cs (List.mem_singleton_self d), hd⟩
    · rw [follow?_project_concat_of_apart hd (not_prefix_of_follow? hd h)] at h
      obtain ⟨c, hc, hnames⟩ := ih h
      exact ⟨c, List.mem_append_left [d] hc, hnames⟩

theorem ordered_project (p : Projection κ) (r : Record) : (p.project r).Ordered := by
  obtain ⟨cs⟩ := p
  induction cs using List.reverseRecOn with
  | nil => exact Json.ordered_of_members_eq_nil rfl
  | append_singleton cs d ih =>
    rw [project_concat]
    exact ordered_insertAt (Json.ordered_of_members_eq_nil (members_toJson _)) ih

/-- The object depends on the columns, but not on their order. -/
theorem project_eq_of_perm (hapart : ∀ c ∈ cs, ∀ d ∈ cs, c ≠ d → c.Apart d)
    {ds : List (Path (MemberType κ))} (hperm : cs.Perm ds) (r : Record) :
    (mk cs).project r = (mk ds).project r := by
  unfold project
  congr 1
  refine hperm.foldl_eq' ?_ []
  intro c hc d hd ms
  by_cases hne : c = d
  · rw [hne]
  · obtain ⟨hcd, hdc⟩ := hapart c hc d hd hne
    exact (insertAt_comm hcd hdc _ _ ms).symm

/-- Nothing stands in the way of a column that is put into the object of columns before it. -/
theorem fresh_of_apart {before : List (Path (MemberType κ))} (h : ∀ b ∈ before, b.Apart c)
    (hbefore : before.Pairwise Path.Apart) (r : Record) :
    ((mk before).project r).follow? c.segments = none ∧
      ∀ names, names <+: c.parents → ∀ v, ((mk before).project r).follow? names = some v →
        ∃ inner, v = .object inner := by
  constructor
  · by_contra hsome
    obtain ⟨v, hv⟩ := Option.ne_none_iff_exists'.mp hsome
    obtain ⟨b, hb, hprefix⟩ := exists_column_of_follow? c.segments_ne_nil hv
    exact (h b hb).2 hprefix
  · intro names hnames v hv
    by_cases hnil : names = []
    · rw [hnil] at hv
      cases hv
      exact ⟨_, rfl⟩
    · obtain ⟨b, hb, hprefix⟩ := exists_column_of_follow? hnil hv
      rcases Path.prefix_segments_iff.mp hprefix with heq | hprefix
      · have hsegments : b.segments <+: c.segments := by
          rw [← heq]
          exact hnames.trans c.parents_prefix_segments
        exact absurd hsegments (h b hb).1
      · obtain ⟨inner, hinner⟩ := follow?_project_parents (r := r) hbefore hb hprefix
        rw [hinner] at hv
        cases hv
        exact ⟨inner, rfl⟩

/-! ## Exactness -/

/-- What it means that a projection shows its columns and nothing else, whatever the record. -/
structure Exact (p : Projection κ) : Prop where
  /-- No column is there twice. -/
  nodup : p.columns.Nodup
  /-- No column goes on from another. -/
  apart : p.columns.Pairwise Path.Apart
  /-- The names along a column lead to the value of the column. -/
  value : ∀ r, ∀ c ∈ p.columns, (p.project r).follow? c.segments = some (c.read r).toJson
  /-- A key of the object, or of an object nested in it, is on the way to a column. -/
  key : ∀ r names inner, (p.project r).follow? names = some (.object inner) →
    ∀ m ∈ inner, ∃ c ∈ p.columns, names ++ [m.1] <+: c.segments
  /-- The keys of every object are in order, each once. -/
  ordered : ∀ r, (p.project r).Ordered
  /-- When the value of a column is put in, there is none at its place, and there are only objects on
  the way. -/
  fresh : ∀ r before c after, p.columns = before ++ c :: after →
    ((mk before).project r).follow? c.segments = none ∧
      ∀ names, names <+: c.parents → ∀ v, ((mk before).project r).follow? names = some v →
        ∃ inner, v = .object inner

theorem key_of_follow? {inner : List (String × Json)} (r : Record)
    (h : ((mk cs).project r).follow? names = some (.object inner)) {m : String × Json}
    (hm : m ∈ inner) : ∃ c ∈ cs, names ++ [m.1] <+: c.segments := by
  have hinner : inner.Pairwise (·.1 < ·.1) := ordered_project (mk cs) r names _ h
  have hfind : Json.find? m.1 inner = some m.2 := Json.find?_eq_some_of_mem hinner hm
  refine exists_column_of_follow? (v := m.2) (by simp) (r := r) ?_
  rw [follow?_append, h, Option.bind_some, Json.follow?, Json.members, hfind]
  rfl

theorem exact_columns (h : compile catalog schema paths = .ok p) : p.Exact where
  nodup := nodup_columns h
  apart := apart_columns h
  value _ _ hc := follow?_project_segments (apart_columns h) hc
  key r _ _ hinner _ hm := key_of_follow? r hinner hm
  ordered := ordered_project p
  fresh r before c after hsplit := by
    have hapart := apart_columns h
    rw [hsplit, List.pairwise_append] at hapart
    obtain ⟨hbefore, -, hc⟩ := hapart
    exact fresh_of_apart (fun b hb => hc b hb c List.mem_cons_self) hbefore r

theorem project_eq_of_mem_iff (h : compile catalog schema paths = .ok p)
    (h' : compile catalog schema paths' = .ok p') (hmem : ∀ c, c ∈ p'.columns ↔ c ∈ p.columns)
    (r : Record) : p'.project r = p.project r := by
  have hperm : p.columns.Perm p'.columns :=
    (List.perm_ext_iff_of_nodup (nodup_columns h) (nodup_columns h')).mpr fun c => (hmem c).symm
  exact (project_eq_of_perm (fun c hc d hd => apart_of_mem_columns h hc hd) hperm r).symm

/-- Paths that resolve to the same, whatever their order, their number and their spelling, make up a
projection that shows the same. -/
theorem compile_respelled (h : compile catalog schema paths = .ok p)
    (hpaths : ∀ x, x ∈ paths'.map (Path.resolve catalog schema) ↔
      x ∈ paths.map (Path.resolve catalog schema)) :
    ∃ p', compile catalog schema paths' = .ok p' ∧ ∀ r, p'.project r = p.project r := by
  simp only [List.mem_map] at hpaths
  have hcolumn : ∀ path ∈ paths', ∃ c, column catalog schema path = .ok c := by
    intro path hpath
    obtain ⟨path₀, hpath₀, heq⟩ := (hpaths _).mp ⟨path, hpath, rfl⟩
    obtain ⟨c, hc⟩ := exists_compile_eq_ok_iff.mp ⟨p, h⟩ path₀ hpath₀
    rw [column_eq_ok_iff, heq] at hc
    exact ⟨c, column_eq_ok_iff.mpr hc⟩
  obtain ⟨p', h'⟩ := exists_compile_eq_ok_iff.mpr hcolumn
  refine ⟨p', h', project_eq_of_mem_iff h h' ?_⟩
  intro c
  rw [mem_columns_iff h, mem_columns_iff h']
  exact hpaths (.ok c)

/-- A compiled projection has the columns that its paths resolve to and shows exactly these, and
every list of paths that stands for the same set of columns shows the same of every record. -/
theorem exact_of_compile (h : compile catalog schema paths = .ok p) :
    (∀ c, c ∈ p.columns ↔ ∃ path ∈ paths, Path.resolve catalog schema path = .ok c) ∧
      p.Exact ∧
      ∀ paths' p', compile catalog schema paths' = .ok p' →
        (∀ c, c ∈ p'.columns ↔ c ∈ p.columns) → ∀ r, p'.project r = p.project r := by
  refine ⟨fun _ => mem_columns_iff h, exact_columns h, ?_⟩
  intro paths' p' h' hmem r
  exact project_eq_of_mem_iff h h' hmem r

/-- The projection of a person to the name and the age, and to the name of the manager. -/
def teamColumns : Projection Unit where
  columns := [⟨["Manager"], "Name", .scalar .text⟩, ⟨[], "Name", .scalar .text⟩,
    ⟨[], "Age", .scalar .int32⟩]

theorem exact_teamColumns :
    compile Person.catalog Person.schema ["Manager.Name", "name", " manager . NAME", "Age"] =
        .ok teamColumns ∧
      compile Person.catalog Person.schema ["AGE", "Name", "Manager.name"] =
        .ok ⟨teamColumns.columns.reverse⟩ ∧
      teamColumns.Exact ∧
      (∀ r, (mk teamColumns.columns.reverse).project r = teamColumns.project r) ∧
      teamColumns.project (Person.report "Cid" (some 30) (.head "Ann" none)).record =
        .object [("Age", .number ⟨false, 30, [], none⟩),
          ("Manager", .object [("Name", .text "Ann")]), ("Name", .text "Cid")] ∧
      teamColumns.project (Person.head "Ann" none).record =
        .object [("Age", .null), ("Manager", .object [("Name", .null)]), ("Name", .text "Ann")] := by
  have h : compile Person.catalog Person.schema
      ["Manager.Name", "name", " manager . NAME", "Age"] = .ok teamColumns := rfl
  have h' : compile Person.catalog Person.schema ["AGE", "Name", "Manager.name"] =
      .ok ⟨teamColumns.columns.reverse⟩ := rfl
  obtain ⟨-, hexact, hsame⟩ := exact_of_compile h
  exact ⟨h, h', hexact, hsame _ _ h' fun _ => List.mem_reverse, rfl, rfl⟩

end Projection

end RecordQuery
