import RecordQuery.Plan.Predicate
import RecordQuery.Proofs.Records.WellTyped

/-!
# Compiled filters are well typed

The type of a path, the operands that the type allows, the values that its literals are read as and
the values that are compared in the end are four tables. They agree: a compiled comparison of a
record that keeps to the schema never meets values of two kinds.

Results:
* `ofFilter_eq_ok_iff`: what a compiled filter consists of.
* `ofFilter_eq_error_iff`: where a filter is refused, of its path, its operand and its literal.
* `accepts_eq_verdict`: a comparison is decided by the first route that is open.
* `ofFilter_sound`: the routes that are open to a compiled filter.
-/

namespace RecordQuery

variable {κ : Type} {catalog : Catalog κ} {schema : Schema κ} {f : Filter} {c : Comparison}

/-! ## Types and literals -/

theorem MemberType.comparable_eq_ok_iff {t : MemberType κ} {operand : Operand} {s : ScalarType} :
    t.comparable catalog operand = .ok s ↔ t = .scalar s ∧ operand ∈ s.category.operands := by
  cases t with
  | scalar s' =>
    simp only [comparable, List.contains_iff_mem, scalar.injEq]
    split
    · next h => simpa using fun hs => hs ▸ h
    · next h => simpa using fun hs => hs ▸ h
  | object ref => simp [comparable]
  | unsupported name => simp [comparable]

theorem Category.eq_text_of_isTextMatch {c : Category} {operand : Operand}
    (h : operand ∈ c.operands) (htext : operand.isTextMatch = true) : c = .text := by
  revert h htext
  cases c <;> cases operand <;> decide

namespace ScalarType

theorem coerce_eq_ok_iff {t : ScalarType} {s : String} {v : Value} :
    t.coerce s = .ok v ↔ t.ofLiteral? s = some v := by
  unfold coerce
  cases t.ofLiteral? s <;> simp

theorem coerce_eq_error_iff {t : ScalarType} {s : String} {err : QueryError} :
    t.coerce s = .error err ↔ t.ofLiteral? s = none ∧ err = .value t.name s := by
  unfold coerce
  cases t.ofLiteral? s <;> simp [eq_comm]

/-- A literal never fails for want of a type that it could be read as. -/
theorem coerce_ne_schema {t : ScalarType} {s : String} (cause : SchemaError) :
    t.coerce s ≠ .error (.schema cause) := by
  unfold coerce
  cases t.ofLiteral? s <;> simp

theorem kind_ne_null (t : ScalarType) : t.kind ≠ .null := by
  cases t <;> simp [kind]

/-- Only texts are compared by their characters. -/
theorem eq_text_of_isTextMatch {t : ScalarType} {operand : Operand}
    (h : operand ∈ t.category.operands) (htext : operand.isTextMatch = true) : t = text := by
  have hcategory := Category.eq_text_of_isTextMatch h htext
  cases t with
  | text => rfl
  | _ => cases hcategory

end ScalarType

namespace Comparison

theorem ofFilter_eq_ok_iff :
    ofFilter catalog schema f = .ok c ↔
      ∃ path t literal, Path.resolve catalog schema f.property = .ok path ∧ path.type = .scalar t ∧
        f.operand ∈ t.category.operands ∧ t.ofLiteral? f.value = some literal ∧
        c = ⟨path.withType t, f.operand, literal⟩ := by
  unfold ofFilter
  simp only [bind_eq_ok_iff, mapError_eq_ok_iff, MemberType.comparable_eq_ok_iff,
    ScalarType.coerce_eq_ok_iff]
  constructor
  · rintro ⟨path, hpath, t, ⟨ht, hop⟩, literal, hlit, hc⟩
    cases hc
    exact ⟨path, t, literal, hpath, ht, hop, hlit, rfl⟩
  · rintro ⟨path, t, literal, hpath, ht, hop, hlit, rfl⟩
    exact ⟨path, hpath, t, ⟨ht, hop⟩, literal, hlit, rfl⟩

/-- How a filter is refused: its path is looked at first, then its operand, then its literal. -/
inductive Refuses (catalog : Catalog κ) (schema : Schema κ) (f : Filter) : QueryError → Prop where
  /-- The path leads nowhere, whatever the operand and the literal are. -/
  | path {err : QueryError} (hpath : Path.resolve catalog schema f.property = .error err) :
      Refuses catalog schema f err
  /-- Members of the type at the end of the path cannot be compared by the operand, whatever the
  literal is. -/
  | operand {path : Path (MemberType κ)} {cause : SchemaError}
      (hpath : Path.resolve catalog schema f.property = .ok path)
      (hoperand : path.type.comparable catalog f.operand = .error cause) :
      Refuses catalog schema f (.schema cause)
  /-- The literal is no value of the type. -/
  | literal {path : Path (MemberType κ)} {t : ScalarType}
      (hpath : Path.resolve catalog schema f.property = .ok path)
      (hoperand : path.type.comparable catalog f.operand = .ok t)
      (hliteral : t.ofLiteral? f.value = none) : Refuses catalog schema f (.value t.name f.value)

theorem ofFilter_eq_error_iff {err : QueryError} :
    ofFilter catalog schema f = .error err ↔ Refuses catalog schema f err := by
  unfold ofFilter
  simp only [bind_eq_error_iff, mapError_eq_ok_iff, mapError_eq_error_iff]
  constructor
  · rintro (hpath | ⟨path, hpath, ⟨cause, hoperand, rfl⟩ | ⟨t, hoperand, hliteral | ⟨_, _, hok⟩⟩⟩)
    · exact .path hpath
    · exact .operand hpath hoperand
    · obtain ⟨hnone, rfl⟩ := ScalarType.coerce_eq_error_iff.mp hliteral
      exact .literal hpath hoperand hnone
    · cases hok
  · rintro (hpath | ⟨hpath, hoperand⟩ | ⟨hpath, hoperand, hnone⟩)
    · exact .inl hpath
    · exact .inr ⟨_, hpath, .inl ⟨_, hoperand, rfl⟩⟩
    · exact .inr ⟨_, hpath, .inr ⟨_, hoperand,
        .inl (ScalarType.coerce_eq_error_iff.mpr ⟨hnone, rfl⟩)⟩⟩

/-! ## Routes -/

/-- The ways in which a comparison is decided. -/
inductive Route where
  /-- The member is null. -/
  | null
  /-- The operand looks at characters, and both values are texts. -/
  | texts (member literal : String)
  /-- The operand looks at characters, and one of the values is no text. -/
  | notTexts
  /-- The operand looks at the order of the values, which they have. -/
  | order (o : Ordering)
  /-- The operand looks at the order of the values, and they have none. -/
  | noOrder
  deriving DecidableEq

/-- The way in which a comparison of two values is decided. -/
def route (operand : Operand) (literal member : Value) : Route :=
  if member.isNull then .null
  else if operand.isTextMatch then
    match member.text?, literal.text? with
    | some m, some l => .texts m l
    | _, _ => .notTexts
  else
    match member.order? literal with
    | some o => .order o
    | none => .noOrder

/-- The decision at the end of a route. -/
def Route.verdict (operand : Operand) : Route → Bool
  | null => operand == .notEquals
  | texts m l => operand.matchesText m l
  | notTexts => false
  | order o => operand.holds o
  | noOrder => operand == .notEquals

theorem accepts_eq_verdict (operand : Operand) (literal member : Value) :
    accepts operand literal member = (route operand literal member).verdict operand := by
  unfold accepts route
  split
  · rfl
  · split
    · cases member.text? <;> cases literal.text? <;> rfl
    · cases member.order? literal <;> rfl

end Comparison

/-! ## Members and literals of one type -/

namespace ScalarType

variable {t : ScalarType} {s : String} {v w : Value}

/-- A literal is a value that a member of its type may hold. -/
theorem admits_of_ofLiteral? (h : t.ofLiteral? s = some v) : t.Admits v := by
  cases t with
  | enumeration e =>
    obtain ⟨c, hc, rfl⟩ := Option.map_eq_some_iff.mp h
    obtain ⟨hplace, hlt, -⟩ := Enumeration.constant?_eq_some_iff.mp hc
    exact .inr ⟨c.ordinal, hlt, congrArg Value.constant hplace⟩
  | _ => exact .inr (kind_of_ofLiteral? h)

theorem isNull_of_ofLiteral? (h : t.ofLiteral? s = some v) : v.isNull = false := by
  have hkind : v.kind = t.kind := kind_of_ofLiteral? h
  cases v with
  | null => exact absurd hkind.symm t.kind_ne_null
  | _ => rfl

theorem isNaN_of_ofLiteral? (h : t.ofLiteral? s = some v) : v.isNaN = false := by
  have hfinite : ∀ {g : Format} {x : Binary g}, Binary.ofText? s = some x → x ≠ .nan := by
    intro g x hx hnan
    have := Binary.isFinite_of_ofText? hx
    simp [hnan, Binary.isFinite] at this
  cases t with
  | text => cases h; rfl
  | float32 =>
    obtain ⟨x, hx, rfl⟩ := Option.map_eq_some_iff.mp h
    simpa [Value.isNaN] using hfinite hx
  | float64 =>
    obtain ⟨x, hx, rfl⟩ := Option.map_eq_some_iff.mp h
    simpa [Value.isNaN] using hfinite hx
  | _ =>
    obtain ⟨x, hx, rfl⟩ := Option.map_eq_some_iff.mp h
    rfl

/-- Among the constants of one enumeration, the place tells the name. -/
theorem constant_eq_of_admits {c d : Constant} (hc : t.Admits (.constant c))
    (hd : t.Admits (.constant d)) (h : c.ordinal = d.ordinal) : c = d := by
  cases t with
  | enumeration e =>
    obtain hc | ⟨i, -, hi⟩ := hc
    · cases hc
    obtain hd | ⟨j, -, hj⟩ := hd
    · cases hd
    cases hi
    cases hj
    cases (show i = j from h)
    rfl
  | _ => simp [Admits, Value.kind, kind] at hc

end ScalarType

namespace Value

/-- Values of one kind tie in their order exactly if they are the same, if among the constants the
place tells the name. -/
theorem order?_eq_some_eq_iff {v w : Value} (hkind : v.kind = w.kind) (hw : w.isNull = false)
    (hconstant : ∀ c d, v = constant c → w = constant d → c.ordinal = d.ordinal → c = d) :
    v.order? w = some .eq ↔ v.same w = true := by
  cases v <;> cases w <;> simp only [kind, reduceCtorEq] at hkind
  case null.null => cases hw
  case int32.int32 m n => simp [order?, same, Int32.toInt_inj]
  case int64.int64 m n => simp [order?, same, Int64.toInt_inj]
  case constant.constant c d =>
    simp only [order?, same, Option.some.injEq, Std.compare_eq_iff_eq, beq_iff_eq, constant.injEq]
    exact ⟨hconstant c d rfl rfl, fun h => h ▸ rfl⟩
  case date.date d d' => simp [order?, same, Date.order_eq_iff]
  case instant.instant t t' => simp [order?, same, Instant.order_eq_iff]
  all_goals simp [order?, same]

end Value

/-! ## Soundness -/

namespace Comparison

/-- A compiled filter agrees with the schema, on one record: its four parts, which are the type of
the path, the operand, the literal and the member, fit each other. -/
structure Sound (catalog : Catalog κ) (schema : Schema κ) (f : Filter) (c : Comparison)
    (r : Record) : Prop where
  /-- The column is the resolved path, with the type that the schema declares. -/
  column : ∃ path, Path.resolve catalog schema f.property = .ok path ∧
    path.type = .scalar c.column.type ∧ c.column = path.withType c.column.type
  operand : c.operand = f.operand
  /-- The operand is one of those that the type allows. -/
  allowed : ∃ operands, (MemberType.scalar c.column.type : MemberType κ).operands catalog =
    .ok operands ∧ c.operand ∈ operands
  /-- The literal is read as a value of the type, which never fails for want of a type. -/
  literal : (MemberType.scalar c.column.type : MemberType κ).coerce catalog f.value = .ok c.literal
  literal_kind : c.literal.kind = c.column.type.kind
  literal_ne_null : c.literal ≠ .null
  /-- The member is null or of the kind of the literal. -/
  member_kind : c.column.read r = .null ∨ (c.column.read r).kind = c.column.type.kind
  /-- An operand that looks at characters meets two texts, unless the member is null. -/
  texts : c.operand.isTextMatch = true → ∃ l, c.literal = .text l ∧
    (c.column.read r = .null ∨ ∃ m, c.column.read r = .text m ∧
      route c.operand c.literal (c.column.read r) = .texts m l)
  /-- Values without an order come from null or NaN only, and from the member. -/
  no_order : (c.column.read r).order? c.literal = none →
    c.column.read r = .null ∨ (c.column.read r).isNaN = true
  /-- The order of values decides only for an operand that looks at it. -/
  order : ∀ o, route c.operand c.literal (c.column.read r) = .order o →
    c.operand.isTextMatch = false
  /-- The comparison is decided at the end of its route. -/
  holds : c.holds r = (route c.operand c.literal (c.column.read r)).verdict c.operand
  /-- To equal the literal is to be the same value. -/
  equals : c.operand = .equals → c.holds r = (c.column.read r).same c.literal

theorem isTextMatch_of_route_eq_order {operand : Operand} {literal member : Value} {o : Ordering}
    (h : route operand literal member = .order o) : operand.isTextMatch = false := by
  unfold route at h
  split at h
  · cases h
  · split at h
    · split at h <;> cases h
    · next hop => simpa using hop

/-- To accept equal values is to accept the values that tie with the literal. -/
theorem accepts_equals_iff {literal member : Value} :
    accepts .equals literal member = true ↔ member.order? literal = some .eq := by
  by_cases hnull : member.isNull = true
  · rw [Value.isNull_eq_true_iff.mp hnull]
    simp [accepts, Value.order?, Value.isNull, Value.kind]
  · cases ho : member.order? literal <;>
      simp [accepts, hnull, ho, Operand.isTextMatch, Operand.holds]

section Typed

variable {t : ScalarType} {s : String} {operand : Operand} {literal member : Value}

/-- An operand that looks at characters meets two texts, unless the member is null. -/
theorem texts_of_isTextMatch (hop : operand ∈ t.category.operands)
    (hliteral : t.ofLiteral? s = some literal) (hmember : t.Admits member)
    (htext : operand.isTextMatch = true) : ∃ l, literal = .text l ∧
      (member = .null ∨ ∃ m, member = .text m ∧ route operand literal member = .texts m l) := by
  obtain rfl := ScalarType.eq_text_of_isTextMatch hop htext
  cases hliteral
  refine ⟨s, rfl, ?_⟩
  obtain hnull | hkind := hmember
  · exact .inl hnull
  · cases member <;> simp only [Value.kind, ScalarType.kind, reduceCtorEq] at hkind
    case text m =>
      refine .inr ⟨m, rfl, ?_⟩
      unfold route
      rw [htext]
      rfl

theorem eq_null_or_isNaN_of_order?_eq_none (hliteral : t.ofLiteral? s = some literal)
    (hmember : t.Admits member) (h : member.order? literal = none) :
    member = .null ∨ member.isNaN = true := by
  by_contra hcon
  rw [not_or, Bool.not_eq_true] at hcon
  obtain ⟨hnull, hnan⟩ := hcon
  have hkind : member.kind = literal.kind := by
    rw [ScalarType.kind_of_ofLiteral? hliteral]
    exact (ScalarType.kind_of_admits hmember).resolve_left hnull
  have hsome : (member.order? literal).isSome = true := by
    refine Value.order?_isSome_iff.mpr ⟨hkind, ?_, hnan, ScalarType.isNaN_of_ofLiteral? hliteral⟩
    rw [← Bool.not_eq_true]
    exact fun h' => hnull (Value.isNull_eq_true_iff.mp h')
  rw [h] at hsome
  cases hsome

/-- To accept equal values is to accept the same value as the literal. -/
theorem accepts_equals_eq_same (hliteral : t.ofLiteral? s = some literal)
    (hmember : t.Admits member) : accepts .equals literal member = member.same literal := by
  have hnull := ScalarType.isNull_of_ofLiteral? hliteral
  rw [Bool.eq_iff_iff, accepts_equals_iff]
  obtain rfl | hkind := ScalarType.kind_of_admits hmember
  · cases literal with
    | null => cases hnull
    | _ => simp [Value.order?, Value.same]
  · refine Value.order?_eq_some_eq_iff (hkind.trans (ScalarType.kind_of_ofLiteral? hliteral).symm)
      hnull ?_
    rintro c d rfl rfl
    exact ScalarType.constant_eq_of_admits hmember (ScalarType.admits_of_ofLiteral? hliteral)

end Typed

/-- A compiled filter is sound on every record that keeps to the schema, and no literal is ever read
as a value of a type that has none: what the operand was checked against is a scalar type. -/
theorem ofFilter_sound {r : Record} (h : ofFilter catalog schema f = .ok c)
    (hr : r.WellTyped catalog schema) :
    c.Sound catalog schema f r ∧
      ∀ (g : Filter) path t, Path.resolve catalog schema g.property = .ok path →
        path.type.comparable catalog g.operand = .ok t →
        ∀ cause, path.type.coerce catalog g.value ≠ .error (.schema cause) := by
  obtain ⟨path, t, literal, hpath, htype, hop, hliteral, rfl⟩ := ofFilter_eq_ok_iff.mp h
  have hadmits : t.Admits ((path.withType t).read r) := Path.admits_read hpath htype hr
  constructor
  · exact
      { column := ⟨path, hpath, htype, rfl⟩
        operand := rfl
        allowed := ⟨_, rfl, hop⟩
        literal := ScalarType.coerce_eq_ok_iff.mpr hliteral
        literal_kind := ScalarType.kind_of_ofLiteral? hliteral
        literal_ne_null := by
          rintro rfl
          cases ScalarType.isNull_of_ofLiteral? hliteral
        member_kind := ScalarType.kind_of_admits hadmits
        texts := texts_of_isTextMatch hop hliteral hadmits
        no_order := eq_null_or_isNaN_of_order?_eq_none hliteral hadmits
        order := fun _ => isTextMatch_of_route_eq_order
        holds := accepts_eq_verdict ..
        equals := fun hequals => by
          unfold Comparison.holds
          rw [hequals]
          exact accepts_equals_eq_same hliteral hadmits }
  · intro g path' t' _ hcomparable
    obtain ⟨htype', -⟩ := MemberType.comparable_eq_ok_iff.mp hcomparable
    rw [htype']
    exact ScalarType.coerce_ne_schema

theorem sound_managerFilter :
    let c : Comparison := ⟨⟨["Manager"], "Name", .text⟩, .contains, .text "nn"⟩
    let r := (Person.report "Cid" none (.head "Ann" none)).record
    ofFilter Person.catalog Person.schema Person.managerFilter = .ok c ∧
      r.WellTyped Person.catalog Person.schema ∧
      c.Sound Person.catalog Person.schema Person.managerFilter r ∧ c.holds r = true := by
  intro c r
  have h : ofFilter Person.catalog Person.schema Person.managerFilter = .ok c := rfl
  have hr : r.WellTyped Person.catalog Person.schema := Person.wellTyped_record _
  exact ⟨h, hr, (ofFilter_sound h hr).1, by decide⟩

end Comparison

end RecordQuery
