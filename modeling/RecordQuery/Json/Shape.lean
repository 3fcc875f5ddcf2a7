import RecordQuery.Json.Value

/-!
# The shape of a document

A document is read against the shape that it must have: a text, a truth value, an integer of 64
bits, a list, or a structure of named members. Reading goes through the document in the order of the
text, so of several faults the one that stands first is reported.

A structure is written as an object with its members under their names, or as an array with them in
the order of declaration. In an object, no declared name may occur twice and members under other
names are passed over, as long as they are JSON.

Results:
* `readMembers_unknown`: a member under a name that is not declared is passed over.
* `readMembers_append`: reading members goes on from where it stopped.
-/

namespace RecordQuery.Json

/-- Why a document is refused. -/
inductive Refusal where
  /-- The text is no JSON, or does not have the shape that is asked for. -/
  | malformed
  /-- The value to compare with is neither a string nor a number nor a truth value. -/
  | notScalar (found : Json)

/-- A way to read a document as a value of a type. -/
abbrev Reader (α : Type) := Document → Except Refusal α

namespace Reader

/-- Reads a string. -/
def text : Reader String
  | .text (some s) => .ok s
  | _ => .error .malformed

/-- Reads a truth value. -/
def bool : Reader Bool
  | .bool b => .ok b
  | _ => .error .malformed

/-- Reads an integer of 64 bits. -/
def int64 : Reader Int64
  | .number n => match n.toInt64? with
    | some i => .ok i
    | none => .error .malformed
  | _ => .error .malformed

/-- Reads a value that may be null. -/
def nullable {α : Type} (read : Reader α) : Reader (Option α)
  | .null => .ok none
  | d => (read d).map some

/-- Reads an array item by item. -/
def list {α : Type} (read : Reader α) : Reader (List α)
  | .array ds => ds.mapM read
  | _ => .error .malformed

end Reader

/-! ## Structures -/

/-- A declared member of a structure, which is read into a draft of the structure: its name, whether
a draft has it already, and how it is read. -/
structure Slot (δ : Type) where
  name : String
  filled : δ → Bool
  read : Document → δ → Except Refusal δ

/-- A declared member that is kept in the draft as an option. -/
def Slot.option {δ α : Type} (name : String) (get : δ → Option α) (set : δ → α → δ)
    (read : Reader α) : Slot δ where
  name := name
  filled draft := (get draft).isSome
  read d draft := (read d).map (set draft)

variable {δ : Type}

/-- Reads the members of an object into a draft. -/
def readMembers (slots : List (Slot δ)) :
    List (Option String × Document) → δ → Except Refusal δ
  | [], draft => .ok draft
  | (none, _) :: _, _ => .error .malformed
  | (some key, d) :: more, draft =>
    match slots.find? (·.name == key) with
    | none => if d.isWhole then readMembers slots more draft else .error .malformed
    | some slot =>
      if slot.filled draft then .error .malformed
      else (slot.read d draft).bind (readMembers slots more)

/-- Reads the items of an array into a draft, the first as the first declared member. The last
members may be missing; there may be no more items than members. -/
def readItems : List (Slot δ) → List Document → δ → Except Refusal δ
  | _, [], draft => .ok draft
  | [], _ :: _, _ => .error .malformed
  | slot :: slots, d :: ds, draft => (slot.read d draft).bind (readItems slots ds)

/-- Reads a structure into a draft, starting from an empty one, and finishes the draft. -/
def Reader.ofSlots {α : Type} (slots : List (Slot δ)) (empty : δ)
    (finish : δ → Except Refusal α) : Reader α
  | .object ms => (readMembers slots ms empty).bind finish
  | .array ds => (readItems slots ds empty).bind finish
  | _ => .error .malformed

/-- A member that must be there. -/
def required {α : Type} : Option α → Except Refusal α
  | some a => .ok a
  | none => .error .malformed

/-- Reads a whole text. -/
def Reader.ofText {α : Type} (read : Reader α) (s : String) : Except Refusal α :=
  match Document.ofText s with
  | (d, whole) => (read d).bind fun a => if whole then .ok a else .error .malformed

theorem readMembers_unknown {slots : List (Slot δ)} {key : String} {d : Document}
    (hkey : slots.find? (·.name == key) = none) (hd : d.isWhole = true)
    (more : List (Option String × Document)) (draft : δ) :
    readMembers slots ((some key, d) :: more) draft = readMembers slots more draft := by
  simp [readMembers, hkey, hd]

theorem readMembers_append (slots : List (Slot δ)) (ms more : List (Option String × Document))
    (draft : δ) :
    readMembers slots (ms ++ more) draft =
      (readMembers slots ms draft).bind (readMembers slots more) := by
  induction ms generalizing draft with
  | nil => rfl
  | cons m ms ih =>
    obtain ⟨_ | key, d⟩ := m
    · rfl
    · rw [List.cons_append, readMembers, readMembers]
      split
      · split
        · exact ih draft
        · rfl
      · next slot _ =>
        split
        · rfl
        · cases slot.read d draft with
          | error e => rfl
          | ok next => exact ih next

end RecordQuery.Json
