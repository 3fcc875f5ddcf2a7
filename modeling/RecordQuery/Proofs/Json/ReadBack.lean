import RecordQuery.Json.Shape
import RecordQuery.Proofs.FirstFailure
import RecordQuery.Proofs.Json.Lexing
import RecordQuery.Request.Printer

/-!
# Readers that take back what is written

A reader inverts a way of writing if it reads every written value as that value. Such pairs are put
together like the types of the values: a list is inverted item by item, an option by null and what
is written otherwise.

Results:
* `Numeral.toInt64?_ofInt`: an integer of 64 bits is read back from its spelling.
* `Reader.Inverts.list`, `Reader.Inverts.nullable`: lists and options of values that are read back.
* `Reader.Inverts.ofText_render`: what is written is read back from its whole text.
-/

namespace RecordQuery

theorem Numeral.toInt64?_ofInt (n : Int64) : (Numeral.ofInt n.toInt).toInt64? = some n := by
  have hmin : Int64.minValue.toInt ≤ n.toInt := n.minValue_le_toInt
  have hmax : n.toInt ≤ Int64.maxValue.toInt := by
    rw [Int64.toInt_maxValue]
    have := n.toInt_lt
    omega
  have hvalue : signed (decide (n.toInt < 0)) n.toInt.natAbs = n.toInt := by
    unfold signed
    by_cases h : n.toInt < 0
    · rw [decide_eq_true h, if_pos rfl]
      omega
    · rw [decide_eq_false h, if_neg Bool.false_ne_true]
      omega
  have hzero : ¬(decide (n.toInt < 0) = true ∧ n.toInt.natAbs = 0) := by
    rw [decide_eq_true_eq]
    omega
  unfold toInt64? ofInt
  simp only
  rw [hvalue, if_pos ⟨trivial, trivial, hzero, hmin, hmax⟩, Int64.ofInt_toInt]

namespace Json

/-! ## Documents without a broken part -/

namespace Document

theorem areWhole_eq_all (ds : List Document) : areWhole ds = ds.all isWhole := by
  induction ds with
  | nil => rfl
  | cons d ds ih => rw [areWhole, ih, List.all_cons]

theorem membersWhole_eq_all (ms : List (Option String × Document)) :
    membersWhole ms = ms.all (·.2.isWhole) := by
  induction ms with
  | nil => rfl
  | cons m ms ih => rw [membersWhole, ih, List.all_cons]

theorem isWhole_ofMembers (ms : List (String × Document)) :
    (ofMembers ms).isWhole = ms.all (·.2.isWhole) := by
  rw [ofMembers, isWhole, membersWhole_eq_all, List.all_map]
  rfl

end Document

/-! ## Reading back -/

namespace Reader

variable {α : Type} {read : Reader α} {write : α → Document}

/-- Every written value is a document without a broken part, which is read as the value. -/
structure Inverts (read : Reader α) (write : α → Document) : Prop where
  read_write (a : α) : read (write a) = .ok a
  whole_write (a : α) : (write a).isWhole = true

theorem text_inverts : Inverts Reader.text .ofString where
  read_write _ := rfl
  whole_write _ := rfl

theorem int64_inverts : Inverts Reader.int64 fun n => .number (.ofInt n.toInt) where
  read_write n := by
    unfold Reader.int64
    simp only [Numeral.toInt64?_ofInt]
  whole_write _ := rfl

theorem Inverts.list (h : Inverts read write) :
    Inverts (Reader.list read) fun as => .array (as.map write) where
  read_write as := by
    show (as.map write).mapM read = .ok as
    rw [mapM_eq_ok_iff, List.forall₂_map_left_iff, List.forall₂_same]
    intro a _
    exact h.read_write a
  whole_write as := by
    rw [Document.isWhole, Document.areWhole_eq_all, List.all_map, List.all_eq_true]
    intro a _
    exact h.whole_write a

theorem Inverts.nullable (h : Inverts read write) (hnull : ∀ a, write a ≠ .null) :
    Inverts (Reader.nullable read) (.ofOption write) where
  read_write o := by
    cases o with
    | none => rfl
    | some a =>
      rw [Document.ofOption, Reader.nullable.eq_2 _ _ (hnull a), h.read_write]
      rfl
  whole_write o := by
    cases o with
    | none => rfl
    | some a => exact h.whole_write a

theorem Inverts.ofText_render (h : Inverts read write) (a : α) :
    read.ofText (write a).render = .ok a := by
  rw [Reader.ofText, Document.ofText_render (h.whole_write a)]
  show (read (write a)).bind _ = _
  rw [h.read_write a]
  rfl

end Reader

end Json

end RecordQuery
