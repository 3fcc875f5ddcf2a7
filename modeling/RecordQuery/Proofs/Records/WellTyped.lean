import RecordQuery.Plan.Literal
import RecordQuery.Query.Filter
import RecordQuery.Proofs.Records.Resolution

/-!
# Well-typed records

A record that keeps to a schema: what it holds under the name of a scalar member is null or a value
of the declared type, and what it holds under the name of a nested record keeps to the nested
schema. Nothing is said of names that the schema does not list.

Results:
* `admits_read`: a resolved path to a scalar member reads null or a value of the type of the path.
* `Person.wellTyped_record`: the records of persons keep to their schema.
-/

namespace RecordQuery

section Typing

variable {κ : Type} {catalog : Catalog κ} {schema : Schema κ}

/-- What a scalar member may hold: null, or a value of its type. A constant is one of the declared
enumeration, with the place and the name that it has there. -/
def ScalarType.Admits : ScalarType → Value → Prop
  | enumeration e, v => v = .null ∨ ∃ i < e.variants.length, v = .constant (e.constantAt i)
  | t, v => v = .null ∨ v.kind = t.kind

namespace ScalarType

theorem admits_null (t : ScalarType) : t.Admits .null := by
  cases t <;> exact .inl rfl

theorem kind_of_admits {t : ScalarType} {v : Value} (h : t.Admits v) :
    v = .null ∨ v.kind = t.kind := by
  cases t with
  | enumeration e =>
    rcases h with h | ⟨i, -, rfl⟩
    · exact .inl h
    · exact .inr rfl
  | _ => exact h

end ScalarType

/-- A record that keeps to a schema. -/
inductive Record.WellTyped (catalog : Catalog κ) : Schema κ → Record → Prop where
  | mk {schema : Schema κ} {r : Record}
      (value : ∀ m ∈ schema.members, ∀ t, m.type = .scalar t → t.Admits (r.value m.name))
      (nested : ∀ m ∈ schema.members, ∀ ref, m.type = .object ref →
        ∀ s, r.nested m.name = some s → WellTyped catalog (catalog ref) s) :
      WellTyped catalog schema r

theorem Path.admits_read {path : String} {p : Path (MemberType κ)} {t : ScalarType}
    (hp : resolve catalog schema path = .ok p) (ht : p.type = .scalar t)
    (hr : r.WellTyped catalog schema) : t.Admits (p.read r) := by
  revert r
  refine resolve_induction
    (motive := fun schema p => p.type = .scalar t → ∀ {r : Record}, r.WellTyped catalog schema →
      t.Admits (p.read r)) ?_ ?_ hp ht
  · rintro owner m hm htype r ⟨hvalue, -⟩
    exact hvalue m hm t htype
  · rintro owner m ref q hm href ih htype r ⟨-, hnested⟩
    rw [read_under]
    cases hs : r.nested m.name with
    | none => exact t.admits_null
    | some s => exact ih htype (hnested m hm ref href s hs)

end Typing

/-! ## Persons -/

/-- A person, for examples: one who heads the others, or one who reports to a manager. -/
inductive Person where
  | head (name : String) (age : Option Int32)
  | report (name : String) (age : Option Int32) (manager : Person)

namespace Person

/-- The schema of persons. The manager is a person again. -/
def schema : Schema Unit :=
  .ofMembers "Person"
    [⟨"Name", .scalar .text⟩, ⟨"Age", .scalar .int32⟩, ⟨"Manager", .object ()⟩]

/-- The catalog of the schema of persons. -/
def catalog : Catalog Unit := fun _ => schema

/-- The scalar members of a person. -/
def scalar (name : String) (age : Option Int32) (member : String) : Value :=
  if member = "Name" then .text name
  else if member = "Age" then age.elim .null .int32
  else .null

/-- A person as a record. -/
def record : Person → Record
  | head name age => .mk (scalar name age) fun _ => none
  | report name age manager =>
    .mk (scalar name age) fun member => if member = "Manager" then some manager.record else none

/-- Some persons, of whom some are of unknown age and some of one age. -/
def team : List Person :=
  let ann := head "Ann" (some 61)
  let bob := head "Bob" none
  [report "Cid" (some 30) bob, ann, report "Dot" (some 44) ann, report "Eve" none bob,
    report "Fay" (some 30) ann, bob]

/-- The filter for persons whose manager's name has a double n in it. -/
def managerFilter : Filter := ⟨"manager.name", .contains, "nn", .or, rfl, by decide⟩

theorem admits_scalar (name : String) (age : Option Int32) :
    ∀ m ∈ schema.members, ∀ t, m.type = .scalar t → t.Admits (scalar name age m.name) := by
  intro m hm t ht
  have hmembers : schema.members =
      [⟨"Name", .scalar .text⟩, ⟨"Age", .scalar .int32⟩, ⟨"Manager", .object ()⟩] := rfl
  rw [hmembers] at hm
  simp only [List.mem_cons, List.not_mem_nil, or_false] at hm
  rcases hm with rfl | rfl | rfl
  · cases ht
    exact .inr rfl
  · cases ht
    cases age with
    | none => exact .inl rfl
    | some n => exact .inr rfl
  · cases ht

theorem wellTyped_record (p : Person) : p.record.WellTyped catalog schema := by
  induction p with
  | head name age => exact ⟨admits_scalar name age, fun _ _ _ _ _ h => by cases h⟩
  | report name age manager ih =>
    refine ⟨admits_scalar name age, fun m _ _ _ s hs => ?_⟩
    simp only [record, Record.nested, Option.ite_none_right_eq_some, Option.some.injEq] at hs
    exact hs.2 ▸ ih

end Person

/-! ## Readings -/

namespace Reading

/-- The schema of readings, for examples: a floating-point number and a decimal number. -/
def schema : Schema Unit :=
  .ofMembers "Reading" [⟨"Level", .scalar .float64⟩, ⟨"Dose", .scalar .decimal⟩]

/-- The catalog of the schema of readings. -/
def catalog : Catalog Unit := fun _ => schema

/-- The reading of a level, without a dose. -/
def record (level : Binary .double) : Record :=
  .mk (fun member => if member = "Level" then .float64 level else .null) fun _ => none

end Reading

end RecordQuery
