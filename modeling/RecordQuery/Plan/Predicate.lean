import RecordQuery.Plan.Literal
import RecordQuery.Plan.Path
import RecordQuery.Query.Basic

/-!
# Predicates

The conditions of a query become a predicate on records. They are joined from left to right, each by
its own connective and without precedence; the connective of the first is never looked at.

Results:
* `comparisons_ofConditions`: a predicate has the comparisons of its conditions, in order.
-/

namespace RecordQuery

/-! ## Comparisons -/

/-- A comparison of a member with a value. -/
structure Comparison where
  column : Column
  operand : Operand
  literal : Value
  deriving DecidableEq

namespace Comparison

/-- Whether a value satisfies a comparison. Null satisfies only that it is not equal; so do values
that cannot be compared with the literal. -/
def accepts (operand : Operand) (literal member : Value) : Bool :=
  if member.isNull then operand == .notEquals
  else if operand.isTextMatch then
    match member.text?, literal.text? with
    | some m, some l => operand.matchesText m l
    | _, _ => false
  else
    match member.order? literal with
    | some order => operand.holds order
    | none => operand == .notEquals

/-- Whether a record satisfies a comparison. -/
def holds (c : Comparison) (r : Record) : Bool := accepts c.operand c.literal (c.column.read r)

/-- The text of a comparison. -/
def text (c : Comparison) : String :=
  c.column.text ++ " " ++ c.operand.code ++ " " ++ c.literal.toText

/-- Whether two comparisons are the same. -/
def same (a b : Comparison) : Bool :=
  a.column == b.column && a.operand == b.operand && a.literal.same b.literal

/-- The comparison that a filter makes: the path is resolved first, then the operand is checked
against the type of the member, then the literal is read. -/
def ofFilter {κ : Type} (catalog : Catalog κ) (schema : Schema κ) (f : Filter) :
    Except QueryError Comparison := do
  let path ← Path.resolve catalog schema f.property
  let type ← (path.type.comparable catalog f.operand).mapError .schema
  let literal ← type.coerce f.value
  return ⟨path.withType type, f.operand, literal⟩

end Comparison

/-! ## Conditions joined -/

/-- A condition on records. -/
inductive Predicate where
  /-- Every record satisfies it. -/
  | always
  | compare (c : Comparison)
  | join (connective : Connective) (left right : Predicate)
  deriving DecidableEq

namespace Predicate

/-- Whether a record satisfies a predicate. -/
def holds (r : Record) : Predicate → Bool
  | always => true
  | compare c => c.holds r
  | join connective left right => connective.join (left.holds r) (right.holds r)

/-- The comparisons of a predicate from left to right. -/
def comparisons : Predicate → List Comparison
  | always => []
  | compare c => [c]
  | join _ left right => left.comparisons ++ right.comparisons

/-- The text of a predicate. -/
def text : Predicate → String
  | always => "true"
  | compare c => c.text
  | join connective left right =>
    "(" ++ left.text ++ " " ++ connective.code ++ " " ++ right.text ++ ")"

/-- Whether two predicates are the same. -/
def same : Predicate → Predicate → Bool
  | always, always => true
  | compare a, compare b => a.same b
  | join c l r, join c' l' r' => c == c' && l.same l' && r.same r'
  | _, _ => false

/-- A predicate with one more condition. -/
def extend (p : Predicate) (condition : Connective × Comparison) : Predicate :=
  join condition.1 p (compare condition.2)

/-- The predicate of conditions, each with the connective that joins it to those before it. -/
def ofConditions : List (Connective × Comparison) → Predicate
  | [] => always
  | (_, c) :: more => more.foldl extend (compare c)

/-- The predicate of filters. -/
def ofFilters {κ : Type} (catalog : Catalog κ) (schema : Schema κ) (fs : List Filter) :
    Except QueryError Predicate :=
  (fs.mapM fun f => do return (f.connective, ← Comparison.ofFilter catalog schema f)).map
    ofConditions

theorem comparisons_foldl_extend (p : Predicate) (conditions : List (Connective × Comparison)) :
    (conditions.foldl extend p).comparisons = p.comparisons ++ conditions.map (·.2) := by
  induction conditions generalizing p with
  | nil => simp
  | cons c cs ih => simp [ih, extend, comparisons]

theorem comparisons_ofConditions (conditions : List (Connective × Comparison)) :
    (ofConditions conditions).comparisons = conditions.map (·.2) := by
  cases conditions with
  | nil => rfl
  | cons c cs => simp [ofConditions, comparisons_foldl_extend, comparisons]

end Predicate

end RecordQuery
