import RecordQuery.Data.Value
import RecordQuery.Proofs.Sorting.StableSort

/-!
# The order of values

The order in which rows are put is not an order on all values: NaN ties with every number, and a
number ties with every text. On the values of one kind it is, null included and NaN excluded.

Results:
* `text?_eq_of_same`, `order?_eq_of_same`: values that are the same have the same text, and stand in
  the same order to any other.
* `preorderOn_sortOrder`: on the values that fit one kind, the sort order is a total preorder.
-/

namespace RecordQuery

/-! ## Orders of single kinds -/

/-- Decimal numbers are ordered as fractions: the common denominator may be any. -/
theorem Decimal.order_ne_gt_iff {a b : Decimal} :
    a.order b ≠ .gt ↔ a.coefficient * pow10 b.scale ≤ b.coefficient * pow10 a.scale :=
  Int.compare_ne_gt

theorem preorderOn_decimalOrder : PreorderOn (fun _ => True) Decimal.order where
  swap a b _ _ :=
    Std.OrientedOrd.eq_swap (a := b.coefficient * pow10 a.scale)
      (b := a.coefficient * pow10 b.scale)
  trans a b c _ _ _ hab hbc := by
    rw [Decimal.order_ne_gt_iff] at *
    have hpos : ∀ n, (0 : Int) < pow10 n := fun n => by exact_mod_cast pow10_pos n
    refine Int.le_of_mul_le_mul_right ?_ (hpos b.scale)
    calc a.coefficient * pow10 c.scale * pow10 b.scale
        = a.coefficient * pow10 b.scale * pow10 c.scale := Int.mul_right_comm ..
      _ ≤ b.coefficient * pow10 a.scale * pow10 c.scale :=
          Int.mul_le_mul_of_nonneg_right hab (Int.le_of_lt (hpos _))
      _ = b.coefficient * pow10 c.scale * pow10 a.scale := Int.mul_right_comm ..
      _ ≤ c.coefficient * pow10 b.scale * pow10 a.scale :=
          Int.mul_le_mul_of_nonneg_right hbc (Int.le_of_lt (hpos _))
      _ = c.coefficient * pow10 a.scale * pow10 b.scale := Int.mul_right_comm ..

theorem preorderOn_dateOrder : PreorderOn (fun _ => True) Date.order :=
  (PreorderOn.of_compare Date.year).then
    ((PreorderOn.of_compare Date.month).then (PreorderOn.of_compare Date.day))

theorem preorderOn_instantOrder : PreorderOn (fun _ => True) Instant.order :=
  (preorderOn_dateOrder.comap Instant.date).then
    ((PreorderOn.of_compare Instant.second).then (PreorderOn.of_compare Instant.nano))

/-- The place of a number in the order of its format, where NaN counts for zero. -/
def Binary.place {f : Format} (a : Binary f) : Int := a.place?.getD 0

theorem Binary.order?_eq_compare {f : Format} {a b : Binary f} (ha : a ≠ nan) (hb : b ≠ nan) :
    a.order? b = some (compare a.place b.place) := by
  cases a <;> cases b <;> simp_all [order?, place, place?]

/-! ## The same value -/

theorem Binary.order?_self {f : Format} {x : Binary f} (h : x ≠ .nan) :
    x.order? x = some .eq := by
  cases x with
  | nan => exact absurd rfl h
  | number negative rank => simp [order?, place?]

/-- A value is the same as itself, but for NaN. -/
theorem Value.same_self {v : Value} (h : v.isNaN = false) : v.same v = true := by
  cases v with
  | float32 x =>
    rw [isNaN, beq_eq_false_iff_ne] at h
    simp [same, Binary.order?_self h]
  | float64 x =>
    rw [isNaN, beq_eq_false_iff_ne] at h
    simp [same, Binary.order?_self h]
  | decimal d => simp [same, Decimal.order]
  | _ => exact beq_self_eq_true _

/-- Numbers that tie stand in the same place. -/
theorem Binary.place?_eq_of_order?_eq_some_eq {f : Format} {x y : Binary f}
    (h : x.order? y = some .eq) : x.place? = y.place? := by
  cases x with
  | nan => cases h
  | number negative rank =>
    cases y with
    | nan => cases h
    | number negative' rank' => simpa [order?, place?] using h

namespace Value

variable {v w : Value}

/-- Two values that are the same are of one kind, and either both texts or none is. -/
theorem text?_eq_of_same (h : v.same w = true) : v.text? = w.text? := by
  cases v <;> cases w <;> simp_all [same, text?]

/-- Every value stands in the same order to two that are the same. -/
theorem order?_eq_of_same (h : v.same w = true) (member : Value) :
    member.order? v = member.order? w := by
  cases v <;> cases w <;> simp only [same, beq_iff_eq, reduceCtorEq] at h
  case float32.float32 x y =>
    cases member <;> simp [order?, Binary.order?, Binary.place?_eq_of_order?_eq_some_eq h]
  case float64.float64 x y =>
    cases member <;> simp [order?, Binary.order?, Binary.place?_eq_of_order?_eq_some_eq h]
  case decimal.decimal d d' =>
    cases member <;> simp [order?]
    exact preorderOn_decimalOrder.congr_right trivial trivial trivial h
  case null.null => rfl
  all_goals rw [h]

end Value

/-! ## Columns of one kind -/

namespace Value

/-- A value that may stand in a column of one kind: null, or a value of that kind but not NaN. -/
def Fits (kind : Kind) (v : Value) : Prop := v.isNull = true ∨ v.kind = kind ∧ v.isNaN = false

theorem sortOrder_null_left {v : Value} (h : v.isNull = false) : sortOrder null v = .lt := by
  rw [sortOrder, h]; rfl

theorem sortOrder_null_right {v : Value} (h : v.isNull = false) : sortOrder v null = .gt := by
  rw [sortOrder, h]; rfl

theorem sortOrder_of_order? {v w : Value} {o : Ordering} (h : v.order? w = some o) :
    sortOrder v w = o := by
  have hv : v.isNull = false := (order?_isSome_iff.mp (by rw [h]; rfl)).2.1
  have hw : w.isNull = false := by
    have hk := (order?_isSome_iff.mp (show (v.order? w).isSome = true by rw [h]; rfl)).1
    simpa [isNull, hk] using hv
  simp [sortOrder, hv, hw, h]

/-- An order of some type, embedded in the values with null before all of them. -/
theorem preorderOn_sortOrder_of_embedding {β : Type} {cmp : β → β → Ordering}
    (h : PreorderOn (fun _ => True) cmp) (f : β → Value)
    (hf : ∀ x y, (f x).order? (f y) = some (cmp x y)) :
    PreorderOn (fun v => v = null ∨ ∃ x, v = f x) sortOrder := by
  have hnull : ∀ x, (f x).isNull = false := fun x =>
    (order?_isSome_iff.mp (show ((f x).order? (f x)).isSome = true by rw [hf]; rfl)).2.1
  have hval : ∀ x y, sortOrder (f x) (f y) = cmp x y := fun x y => sortOrder_of_order? (hf x y)
  constructor
  · rintro _ _ (rfl | ⟨x, rfl⟩) (rfl | ⟨y, rfl⟩)
    · rfl
    · rw [sortOrder_null_left (hnull y), sortOrder_null_right (hnull y)]; rfl
    · rw [sortOrder_null_left (hnull x), sortOrder_null_right (hnull x)]; rfl
    · rw [hval, hval, h.swap x y trivial trivial]
  · rintro _ _ _ (rfl | ⟨x, rfl⟩) (rfl | ⟨y, rfl⟩) (rfl | ⟨z, rfl⟩) hxy hyz
    case inr.inr.inr =>
      rw [hval] at *
      exact h.trans x y z trivial trivial trivial hxy hyz
    all_goals simp_all [sortOrder_null_left, sortOrder_null_right]

theorem preorderOn_sortOrder (kind : Kind) : PreorderOn (Fits kind) sortOrder := by
  have hfloat : ∀ f : Format, PreorderOn (fun _ => True) fun a b : {x : Binary f // x ≠ .nan} =>
      compare a.val.place b.val.place := fun f => .of_compare
      fun a : {x : Binary f // x ≠ .nan} => a.val.place
  -- each kind is an order embedded in the values
  have hkind : ∃ (β : Type) (f : β → Value) (cmp : β → β → Ordering),
      PreorderOn (fun _ => True) cmp ∧ (∀ x y, (f x).order? (f y) = some (cmp x y)) ∧
        ∀ v, Fits kind v → v = null ∨ ∃ x, v = f x := by
    cases kind with
    | null | text =>
      refine ⟨String, text, compare, .of_transCmp _, fun _ _ => rfl, fun v hv => ?_⟩
      cases v <;> simp_all [Fits, Value.kind]
    | int32 =>
      refine ⟨Int32, int32, _, .of_compare Int32.toInt, fun _ _ => rfl, fun v hv => ?_⟩
      cases v <;> simp_all [Fits, Value.kind]
    | int64 =>
      refine ⟨Int64, int64, _, .of_compare Int64.toInt, fun _ _ => rfl, fun v hv => ?_⟩
      cases v <;> simp_all [Fits, Value.kind]
    | float32 =>
      refine ⟨{x : Binary .single // x ≠ .nan}, fun x => float32 x.val, _, hfloat .single,
        fun x y => Binary.order?_eq_compare x.property y.property, fun v hv => ?_⟩
      cases v <;> simp_all [Fits, Value.kind, isNaN]
    | float64 =>
      refine ⟨{x : Binary .double // x ≠ .nan}, fun x => float64 x.val, _, hfloat .double,
        fun x y => Binary.order?_eq_compare x.property y.property, fun v hv => ?_⟩
      cases v <;> simp_all [Fits, Value.kind, isNaN]
    | decimal =>
      refine ⟨Decimal, decimal, _, preorderOn_decimalOrder, fun _ _ => rfl, fun v hv => ?_⟩
      cases v <;> simp_all [Fits, Value.kind]
    | bool =>
      refine ⟨Bool, bool, compare, .of_transCmp _, fun _ _ => rfl, fun v hv => ?_⟩
      cases v <;> simp_all [Fits, Value.kind]
    | instant =>
      refine ⟨Instant, instant, _, preorderOn_instantOrder, fun _ _ => rfl, fun v hv => ?_⟩
      cases v <;> simp_all [Fits, Value.kind]
    | date =>
      refine ⟨Date, date, _, preorderOn_dateOrder, fun _ _ => rfl, fun v hv => ?_⟩
      cases v <;> simp_all [Fits, Value.kind]
    | constant =>
      refine ⟨Constant, constant, _, .of_compare Constant.ordinal, fun _ _ => rfl, fun v hv => ?_⟩
      cases v <;> simp_all [Fits, Value.kind]
  obtain ⟨β, f, cmp, hcmp, hf, hfits⟩ := hkind
  exact (preorderOn_sortOrder_of_embedding hcmp f hf).mono hfits

end Value

end RecordQuery
