import RecordQuery.Json.Value
import RecordQuery.Number.Integer
import RecordQuery.Text.Lowercase

/-!
# Keys of layered settings

Settings that come in layers are put together in one JSON object, a later layer over the earlier
ones. A key may lead into nested objects and arrays: names stand between points, and places in
arrays in brackets behind them. Objects are merged member by member, under names in lower case;
anything else replaces what was there.

Results:
* `find?_overlay_scalar`: a value that is no object is found under its name after it was put there.
-/

namespace RecordQuery.Settings

/-- One step into a value: to the member of a name, or to an item of an array, counted from the end
if the number is negative. -/
inductive KeyStep where
  | name (s : String)
  | item (n : Int)
  deriving DecidableEq, Repr

namespace KeyStep

/-- Whether a name in a key may have a character. A space is as good as a letter. -/
def isNameChar (c : Char) : Bool := c.isAlphanum || c = '_' || c = '-' || c = ' '

/-- The place that stands after an opening bracket, with blanks around it. It must be an integer of
64 bits. -/
def item? : List Char → Option KeyStep
  | '[' :: cs =>
    let isSpace := fun c => c = ' ' || c = '\t'
    let (negative, cs) := match cs.dropWhile isSpace with
      | '-' :: cs => (true, cs)
      | cs => (false, cs)
    match Digits.scan cs with
    | (d :: ds, rest) =>
      let n := signed negative (Digits.value (d :: ds))
      if rest.all isSpace ∧ Int64.minValue.toInt ≤ n ∧ n ≤ Int64.maxValue.toInt then some (.item n)
      else none
    | ([], _) => none
  | _ => none

/-- The steps of the part of a key between two points: a name, and places in brackets. -/
def ofPart? (cs : List Char) : Option (List KeyStep) :=
  let name := cs.takeWhile isNameChar
  match ((cs.dropWhile isNameChar).splitOn ']').reverse with
  | [] :: places =>
    if name = [] then none
    else (places.reverse.mapM item?).map (.name (String.ofList name) :: ·)
  | _ => none

/-- The steps of a key. A key that is not made up of steps is a name as a whole. -/
def ofKey (key : String) : List KeyStep :=
  match (key.toList.splitOn '.').mapM ofPart? with
  | some steps => steps.flatten
  | none => [.name key]

end KeyStep

/-! ## Putting values in place -/

/-- An array with one item changed. It is filled up with nulls as far as needed; a place before the
first is taken for the first. -/
def changeItem (n : Int) (change : Json → Json) (target : Json) : Json :=
  let items := match target with
    | .array items => items
    | _ => []
  let place := (if n < 0 then items.length + n else n).toNat
  let filled := items ++ List.replicate (place + 1 - items.length) .null
  .array (filled.modify place change)

mutual

/-- A value with another put over the member of a name. -/
def overlay (value : Json) (name : String) (target : Json) : Json :=
  let name := Text.lowercase name
  match value with
  | .object ms =>
    let below := (Json.find? name target.members).getD (.object [])
    .object (Json.insert name (overlayMembers ms below) target.members)
  | value => .object (Json.insert name value target.members)

/-- A value with members put over it, one after another. -/
def overlayMembers (members : List (String × Json)) (target : Json) : Json :=
  match members with
  | [] => target
  | (name, value) :: more => overlayMembers more (overlay value name target)

end

/-- A value with another put where steps lead to. Objects and arrays on the way are made as needed,
in place of whatever else stands there. -/
def assign (value : Json) : List KeyStep → Json → Json
  | [], _ => value
  | [.name s], target => overlay value s target
  | .name s :: more, target =>
    let name := Text.lowercase s
    let below := (Json.find? name target.members).getD .null
    .object (Json.insert name (assign value more below) target.members)
  | .item n :: more, target => changeItem n (assign value more) target

/-- A value with another put under a key. -/
def assignKey (key : String) (value : Json) (target : Json) : Json :=
  assign value (KeyStep.ofKey key) target

theorem find?_overlay_scalar {value : Json} (h : ∀ ms, value ≠ .object ms) (name : String)
    (target : Json) :
    Json.find? (Text.lowercase name) (overlay value name target).members = some value := by
  cases value with
  | object ms => exact absurd rfl (h ms)
  | _ => simp [overlay, Json.members, Json.find?_insert]

end RecordQuery.Settings
