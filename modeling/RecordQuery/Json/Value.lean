import RecordQuery.Json.Document

/-!
# JSON values

A JSON value is what a document means: the members of an object form a mapping, held in the order of
the code points of the keys, and of members with one key the last counts. So equal mappings are
equal values, however they were put together.

Results:
* `find?_insert`: inserting a member changes the value of its key and of no other.
-/

namespace RecordQuery

/-- A JSON value. The members of an object stand in the order of their keys, each key once. -/
inductive Json where
  | null
  | bool (b : Bool)
  | number (n : Numeral)
  | text (s : String)
  | array (items : List Json)
  | object (members : List (String × Json))

namespace Json

/-! ## Members -/

/-- The members with one more. A member of the same key is replaced. -/
def insert (key : String) (value : Json) : List (String × Json) → List (String × Json)
  | [] => [(key, value)]
  | (k, v) :: ms =>
    match compare key k with
    | .lt => (key, value) :: (k, v) :: ms
    | .eq => (key, value) :: ms
    | .gt => (k, v) :: insert key value ms

/-- The value of a key. -/
def find? (key : String) (members : List (String × Json)) : Option Json :=
  (members.find? (·.1 == key)).map (·.2)

/-- The members of an object; none of another value. -/
def members : Json → List (String × Json)
  | object ms => ms
  | _ => []

theorem find?_insert (key : String) (value : Json) (k : String) (ms : List (String × Json)) :
    find? k (insert key value ms) = if key = k then some value else find? k ms := by
  induction ms with
  | nil => by_cases h : key = k <;> simp [insert, find?, h]
  | cons m ms ih =>
    obtain ⟨k', v'⟩ := m
    simp only [insert]
    cases hc : compare key k' with
    | lt => by_cases h : key = k <;> simp [find?, h]
    | eq =>
      obtain rfl := Std.compare_eq_iff_eq.1 hc
      by_cases h : key = k <;> simp [find?, h]
    | gt =>
      have hne : key ≠ k' := by
        rintro rfl
        simp at hc
      by_cases h : k' = k
      · subst h; simp [find?, hne]
      · simpa [find?, h] using ih

/-! ## The value of a document -/

/-- The key that marks an object as a number: such an object has this member only, a string that
spells the number. -/
def numberKey : String := "$serde_json::private::Number"

/-- The number that the members after a marking key give: a string that spells it and nothing
more. -/
def markedNumber? (d : Document) (more : List (Option String × Document)) : Option Json :=
  match d, more with
  | .text (some s), [] => (Numeral.ofText? s).map .number
  | _, _ => none

end Json

namespace Json.Document

mutual

/-- The value of a document that opens no more than `levels` containers inside each other. A
document with a broken part has none, nor has one with a string without content. -/
def toJson? (levels : Nat) : Document → Option Json
  | null => some .null
  | bool b => some (.bool b)
  | number n => some (.number n)
  | text s => s.map .text
  | array ds =>
    match levels with
    | 0 => none
    | levels + 1 => (itemsToJson? levels ds).map .array
  | object ms =>
    match levels with
    | 0 => none
    | levels + 1 =>
      match ms with
      | [] => some (.object [])
      | (key, d) :: more =>
        if key = some numberKey then markedNumber? d more
        else do
          let key ← key
          let value ← toJson? levels d
          let more ← membersToJson? levels more
          some (.object (((key, value) :: more).foldl (fun ms m => insert m.1 m.2 ms) []))
  | broken => none

/-- The values of the items of an array. -/
def itemsToJson? (levels : Nat) : List Document → Option (List Json)
  | [] => some []
  | d :: ds => do
    let value ← toJson? levels d
    let values ← itemsToJson? levels ds
    some (value :: values)

/-- The keys and values of members. -/
def membersToJson? (levels : Nat) :
    List (Option String × Document) → Option (List (String × Json))
  | [] => some []
  | (key, d) :: more => do
    let key ← key
    let value ← toJson? levels d
    let more ← membersToJson? levels more
    some ((key, value) :: more)

end

end Json.Document

namespace Json

mutual

/-- A value as a document. -/
def toDocument : Json → Document
  | null => .null
  | bool b => .bool b
  | number n => .number n
  | text s => .text (some s)
  | array vs => .array (itemsToDocuments vs)
  | object ms => .object (membersToDocuments ms)

/-- Items as documents. -/
def itemsToDocuments : List Json → List Document
  | [] => []
  | v :: vs => toDocument v :: itemsToDocuments vs

/-- Members as members of a document. -/
def membersToDocuments : List (String × Json) → List (Option String × Document)
  | [] => []
  | (key, v) :: ms => (some key, toDocument v) :: membersToDocuments ms

end

/-- The text of a value, without spaces and with keys in order. -/
def render (v : Json) : String := v.toDocument.render

/-- The value of a whole text that opens no more than `levels` containers inside each other. -/
def ofText? (levels : Nat) (s : String) : Option Json :=
  match Document.ofText s with
  | (d, true) => d.toJson? levels
  | (_, false) => none

end Json

end RecordQuery
