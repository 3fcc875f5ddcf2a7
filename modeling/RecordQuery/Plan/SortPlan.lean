import RecordQuery.Plan.Path
import RecordQuery.Settings.Basic

/-!
# Sort plans

The sort directives of a query become a plan to order rows by: keys, each a scalar member and a
direction, and how they are combined.
-/

namespace RecordQuery

/-- A member to order rows by, and whether the least value comes first. -/
structure SortKey where
  column : Column
  ascending : Bool
  deriving DecidableEq, Repr

namespace SortKey

/-- The order of two records by one key. Going down, null comes last. -/
def order (k : SortKey) (a b : Record) : Ordering :=
  let o := (k.column.read a).sortOrder (k.column.read b)
  if k.ascending then o else o.swap

/-- The key of a directive. Rows are ordered by scalar members only. -/
def ofDirective {κ : Type} (catalog : Catalog κ) (schema : Schema κ) (d : SortDirective) :
    Except QueryError SortKey := do
  let path ← Path.resolve catalog schema d.property
  match path.type.scalar? with
  | some type => return ⟨path.withType type, d.ascending⟩
  | none => throw (.schema (.notOrderable path.text (path.type.name catalog)))

end SortKey

/-- A plan to order rows by. -/
structure SortPlan where
  keys : List SortKey := []
  composition : SortComposition := .multiKey
  deriving DecidableEq

namespace SortPlan

/-- The order of two records by keys, the first of which is decisive. -/
def lexicographic (keys : List SortKey) (a b : Record) : Ordering :=
  keys.foldr (fun k o => (k.order a b).then o) .eq

/-- The order of two records. Sorting by one key after the other makes the last decisive. -/
def order (p : SortPlan) : Record → Record → Ordering :=
  match p.composition with
  | .multiKey => lexicographic p.keys
  | .sequential => lexicographic p.keys.reverse

/-- Rows put in order, where rows that tie keep the order they had. -/
def sort {ρ : Type} (p : SortPlan) (view : ρ → Record) (rows : List ρ) : List ρ :=
  rows.mergeSort fun a b => p.order (view a) (view b) != .gt

/-- The plan of directives. -/
def ofDirectives {κ : Type} (catalog : Catalog κ) (schema : Schema κ) (ds : List SortDirective)
    (composition : SortComposition) : Except QueryError SortPlan := do
  return ⟨← ds.mapM (SortKey.ofDirective catalog schema), composition⟩

theorem sort_perm {ρ : Type} (p : SortPlan) (view : ρ → Record) (rows : List ρ) :
    (p.sort view rows).Perm rows :=
  List.mergeSort_perm rows _

end SortPlan

end RecordQuery
