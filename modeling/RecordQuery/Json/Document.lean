import RecordQuery.Json.Token

/-!
# JSON documents

A document is the structure of a JSON text: members of an object stand in the order of the text and
a key may occur again. A text that is no JSON is read up to the place where it stops being JSON,
which stays in the document as a broken part; so a reader that goes through a document in order
meets the faults of the text in order too.

The text is read token by token by a machine whose state holds the containers that are open.

Results:
* `ofTokens_tokens`: a document without a broken part is read back from its own tokens.
-/

namespace RecordQuery.Json

/-- The structure of a JSON text. A string, as a value or as a key, has no content if it has a lone
surrogate. A member of an object whose key could not be read is broken and has no key. -/
inductive Document where
  | null
  | bool (b : Bool)
  | number (n : Numeral)
  | text (content : Option String)
  | array (items : List Document)
  | object (members : List (Option String × Document))
  | broken

namespace Document

/-! ## Reading -/

/-- An open container: the items of an array so far, last first; or the members of an object so far,
last first, and the key of the member whose value is being read. -/
inductive Frame where
  | items (done : List Document)
  | members (done : List (Option String × Document)) (key : Option String)

/-- What the text so far amounts to: what may come next, inside which open containers, innermost
first; or the document, which may have been followed by something else. -/
inductive State where
  | value (stack : List Frame)
  | firstItem (stack : List Frame)
  | afterItem (done : List Document) (stack : List Frame)
  | firstKey (stack : List Frame)
  | nextKey (done : List (Option String × Document)) (stack : List Frame)
  | afterKey (done : List (Option String × Document)) (key : Option String) (stack : List Frame)
  | afterMember (done : List (Option String × Document)) (stack : List Frame)
  | complete (d : Document)
  | trailing (d : Document)

/-- The document of a part inside open containers, when nothing more is read. -/
def enclose (d : Document) : List Frame → Document
  | [] => d
  | .items done :: stack => enclose (.array (d :: done).reverse) stack
  | .members done key :: stack => enclose (.object ((key, d) :: done).reverse) stack

namespace State

/-- The state after a value inside open containers. -/
def deliver (d : Document) : List Frame → State
  | [] => complete d
  | .items done :: stack => afterItem (d :: done) stack
  | .members done key :: stack => afterMember ((key, d) :: done) stack

/-- The state after a token that cannot stand there. -/
def fail (stack : List Frame) : State := trailing (enclose broken stack)

/-- The state after a token where a value must start. -/
def startValue (stack : List Frame) : Token → State
  | .null => deliver .null stack
  | .bool b => deliver (.bool b) stack
  | .number n => deliver (.number n) stack
  | .text s => deliver (.text s) stack
  | .openArray => firstItem stack
  | .openObject => firstKey stack
  | _ => fail stack

/-- The state after a token where a key must stand. -/
def startMember (done : List (Option String × Document)) (stack : List Frame) : Token → State
  | .text s => afterKey done s stack
  | _ => fail (.members done none :: stack)

/-- The state after one more token. -/
def step : State → Token → State
  | value stack, t => startValue stack t
  | firstItem stack, .closeArray => deliver (.array []) stack
  | firstItem stack, t => startValue (.items [] :: stack) t
  | afterItem done stack, .comma => value (.items done :: stack)
  | afterItem done stack, .closeArray => deliver (.array done.reverse) stack
  | afterItem done stack, _ => fail (.items done :: stack)
  | firstKey stack, .closeObject => deliver (.object []) stack
  | firstKey stack, t => startMember [] stack t
  | nextKey done stack, t => startMember done stack t
  | afterKey done key stack, .colon => value (.members done key :: stack)
  | afterKey done key stack, _ => fail (.members done key :: stack)
  | afterMember done stack, .comma => nextKey done stack
  | afterMember done stack, .closeObject => deliver (.object done.reverse) stack
  | afterMember done stack, _ => fail (.members done none :: stack)
  | complete d, _ => trailing d
  | trailing d, _ => trailing d

/-- The document that was read when the text ends, and whether the text ends where the document
does. -/
def finish : State → Document × Bool
  | value stack => (enclose broken stack, false)
  | firstItem stack => (enclose broken (.items [] :: stack), false)
  | afterItem done stack => (enclose broken (.items done :: stack), false)
  | firstKey stack => (enclose broken (.members [] none :: stack), false)
  | nextKey done stack => (enclose broken (.members done none :: stack), false)
  | afterKey done key stack => (enclose broken (.members done key :: stack), false)
  | afterMember done stack => (enclose broken (.members done none :: stack), false)
  | complete d => (d, true)
  | trailing d => (d, false)

end State

/-- The document at the front of a list of tokens, and whether it is all of it. -/
def ofTokens (ts : List Token) : Document × Bool := (ts.foldl State.step (.value [])).finish

/-- The document at the front of a text, and whether the text is all of it. -/
def ofText (s : String) : Document × Bool := ofTokens (Token.ofChars s.toList)

/-! ## Writing -/

mutual

/-- The tokens of a document. -/
def tokens : Document → List Token
  | null => [.null]
  | bool b => [.bool b]
  | number n => [.number n]
  | text s => [.text s]
  | array [] => [.openArray, .closeArray]
  | array (d :: ds) => .openArray :: tokens d ++ itemTokens ds ++ [.closeArray]
  | object [] => [.openObject, .closeObject]
  | object ((key, d) :: ms) =>
    .openObject :: .text key :: .colon :: tokens d ++ memberTokens ms ++ [.closeObject]
  | broken => [.invalid]

/-- The tokens of items after the first. -/
def itemTokens : List Document → List Token
  | [] => []
  | d :: ds => .comma :: tokens d ++ itemTokens ds

/-- The tokens of members after the first. -/
def memberTokens : List (Option String × Document) → List Token
  | [] => []
  | (key, d) :: ms => .comma :: .text key :: .colon :: tokens d ++ memberTokens ms

end

/-- The text of a document, without spaces. -/
def render (d : Document) : String := String.ofList (d.tokens.flatMap Token.chars)

mutual

/-- Whether a document has no broken part. -/
def isWhole : Document → Bool
  | array ds => areWhole ds
  | object ms => membersWhole ms
  | broken => false
  | _ => true

/-- Whether none of the items has a broken part. -/
def areWhole : List Document → Bool
  | [] => true
  | d :: ds => isWhole d && areWhole ds

/-- Whether none of the members has a broken part. -/
def membersWhole : List (Option String × Document) → Bool
  | [] => true
  | (_, d) :: ms => isWhole d && membersWhole ms

end

/-! ## Reading back -/

mutual

/-- Reading the tokens of a document where a value must start delivers the document. -/
theorem foldl_step_tokens (d : Document) (h : d.isWhole = true) (stack : List Frame) :
    d.tokens.foldl State.step (.value stack) = State.deliver d stack := by
  match d, h with
  | .null, _ => rfl
  | .bool _, _ => rfl
  | .number _, _ => rfl
  | .text _, _ => rfl
  | .array [], _ => rfl
  | .array (d :: ds), h =>
    simp only [isWhole, areWhole, Bool.and_eq_true] at h
    have hfirst : d.tokens.foldl State.step (.firstItem stack) =
        d.tokens.foldl State.step (.value (.items [] :: stack)) := by
      obtain ⟨t, ts, ht, hne, -⟩ := tokens_head d
      rw [ht, List.foldl_cons, List.foldl_cons]
      congr 1
      unfold State.step
      split <;> simp_all
    rw [tokens, List.cons_append, List.cons_append, List.foldl_cons, List.foldl_append,
      List.foldl_append]
    rw [show State.step (.value stack) .openArray = .firstItem stack from rfl, hfirst,
      foldl_step_tokens d h.1, State.deliver, foldl_step_itemTokens ds h.2]
    simp [State.step]
  | .object [], _ => rfl
  | .object ((key, d) :: ms), h =>
    simp only [isWhole, membersWhole, Bool.and_eq_true] at h
    rw [tokens, List.cons_append, List.cons_append, List.cons_append, List.cons_append,
      List.cons_append, List.cons_append, List.foldl_cons, List.foldl_cons, List.foldl_cons,
      List.foldl_append, List.foldl_append]
    rw [show State.step (State.step (State.step (.value stack) .openObject) (.text key)) .colon =
        .value (.members [] key :: stack) from rfl,
      foldl_step_tokens d h.1, State.deliver, foldl_step_memberTokens ms h.2]
    simp [State.step]

/-- Reading the tokens of further items adds the items. -/
theorem foldl_step_itemTokens (ds : List Document) (h : areWhole ds = true)
    (done : List Document) (stack : List Frame) :
    (itemTokens ds).foldl State.step (.afterItem done stack) =
      .afterItem (ds.reverse ++ done) stack := by
  match ds, h with
  | [], _ => rfl
  | d :: ds, h =>
    simp only [areWhole, Bool.and_eq_true] at h
    rw [itemTokens, List.cons_append, List.foldl_cons, List.foldl_append]
    rw [show State.step (.afterItem done stack) .comma = .value (.items done :: stack) from rfl,
      foldl_step_tokens d h.1, State.deliver, foldl_step_itemTokens ds h.2]
    simp

/-- Reading the tokens of further members adds the members. -/
theorem foldl_step_memberTokens (ms : List (Option String × Document))
    (h : membersWhole ms = true) (done : List (Option String × Document)) (stack : List Frame) :
    (memberTokens ms).foldl State.step (.afterMember done stack) =
      .afterMember (ms.reverse ++ done) stack := by
  match ms, h with
  | [], _ => rfl
  | (key, d) :: ms, h =>
    simp only [membersWhole, Bool.and_eq_true] at h
    rw [memberTokens, List.cons_append, List.cons_append, List.cons_append, List.foldl_cons,
      List.foldl_cons, List.foldl_cons, List.foldl_append]
    rw [show State.step (State.step (State.step (.afterMember done stack) .comma) (.text key))
        .colon = .value (.members done key :: stack) from rfl,
      foldl_step_tokens d h.1, State.deliver, foldl_step_memberTokens ms h.2]
    simp

/-- The tokens of a document do not start with a closing bracket. -/
theorem tokens_head (d : Document) :
    ∃ t ts, d.tokens = t :: ts ∧ t ≠ .closeArray ∧ t ≠ .closeObject := by
  match d with
  | .null | .bool _ | .number _ | .text _ | .broken => simp [tokens]
  | .array [] | .array (_ :: _) => simp [tokens]
  | .object [] | .object ((_, _) :: _) => simp [tokens]

end

theorem ofTokens_tokens {d : Document} (h : d.isWhole = true) : ofTokens d.tokens = (d, true) := by
  rw [ofTokens, foldl_step_tokens d h]
  rfl

end Document

end RecordQuery.Json
