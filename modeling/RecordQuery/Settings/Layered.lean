import RecordQuery.Number.Shortest
import RecordQuery.Settings.Environment
import RecordQuery.Settings.KeyPath

/-!
# Settings in layers

Settings are put together from the text of a file and from variables, which come over the file. Then
they are read leniently: a number may be written as a string and a string as a number, and truth
values in several words. Whatever cannot be read makes the settings unreadable as a whole.

Results:
* `valid_ofLayers`: settings from layers are valid.
-/

namespace RecordQuery.Settings

/-! ## Lenient values -/

/-- A number that is an integer of 64 bits as it is spelled. -/
def exactInteger? (n : Numeral) : Option Int64 :=
  let value := signed n.negative n.whole
  if n.fraction = [] ∧ n.exponent = none ∧
      Int64.minValue.toInt ≤ value ∧ value ≤ Int64.maxValue.toInt then
    some (Int64.ofInt value)
  else none

/-- A number as a floating-point number. -/
def double (n : Numeral) : Binary .double := .ofScientific n.toScientific

/-- The integer of 64 bits nearest to an integer. -/
def nearestInt64 (n : Int) : Int64 :=
  Int64.ofInt (max Int64.minValue.toInt (min n Int64.maxValue.toInt))

/-- The integer that a value stands for. -/
def lenientInteger? : Json → Option Int64
  | .number n => exactInteger? n <|> (double n).round?.map nearestInt64
  | .bool b => some (if b then 1 else 0)
  | .text s =>
    let word := Text.lowercase s
    if word ∈ ["true", "on", "yes"] then some 1
    else if word ∈ ["false", "off", "no"] then some 0
    else Integer.int64OfText? s
  | _ => none

/-- The truth value that a value stands for. -/
def lenientBool? : Json → Option Bool
  | .number n => match exactInteger? n with
    | some i => some (i != 0)
    | none => some ((double n).place? != some 0)
  | .bool b => some b
  | .text s =>
    let word := Text.lowercase s
    if word ∈ ["1", "true", "on", "yes"] then some true
    else if word ∈ ["0", "false", "off", "no"] then some false
    else none
  | _ => none

/-- The text that a value stands for. -/
def lenientText? : Json → Option String
  | .number n => match exactInteger? n with
    | some i => some (Integer.text i.toInt)
    | none => some (double n).text
  | .bool b => some (if b then "true" else "false")
  | .text s => some s
  | _ => none

/-- The sort directive that a value stands for: an object, or an array of the property and the
direction. -/
def lenientSort? : Json → Option SortDirective
  | .object ms => do
    let property ← lenientText? (← Json.find? "property" ms)
    let ascending ← ((Json.find? "ascending" ms).map lenientBool?).getD (some true)
    return ⟨property, ascending⟩
  | .array [property] => (lenientText? property).map (⟨·, true⟩)
  | .array (property :: ascending :: _) => do
    return ⟨← lenientText? property, ← lenientBool? ascending⟩
  | _ => none

/-- The sort directives that a value stands for. -/
def lenientSorts? : Json → Option (List SortDirective)
  | .array items => items.mapM lenientSort?
  | _ => none

/-- The composition that a value names: a string, or an object with one member of that name. -/
def lenientComposition? : Json → Option SortComposition
  | .text s | .object [(s, _)] =>
    [SortComposition.multiKey, .sequential].find? (·.name == Text.lowercase s)
  | _ => none

/-! ## Layers -/

/-- The value of a member, or a default if it is missing. -/
def memberOr {α : Type} (members : List (String × Json)) (name : String) (default : α)
    (read : Json → Option α) : Option α :=
  match Json.find? name members with
  | some value => read value
  | none => some default

/-- The settings that a value stands for. -/
def lenient? (value : Json) : Option Settings := do
  let ms := value.members
  let default : Settings := {}
  let defaultPage ← memberOr ms "default_page" default.defaultPage lenientInteger?
  let defaultRows ← memberOr ms "default_rows" default.defaultRows lenientInteger?
  let maxRows ← memberOr ms "max_rows" default.maxRows lenientInteger?
  let defaultSort ← memberOr ms "default_sort" default.defaultSort lenientSorts?
  let sortComposition ← memberOr ms "sort_composition" default.sortComposition lenientComposition?
  let paginateData ← memberOr ms "paginate_data" default.paginateData lenientBool?
  return { defaultPage, defaultRows, maxRows, defaultSort, sortComposition, paginateData }

/-- Two underscores in a row stand for a point. -/
def pointed : List Char → List Char
  | '_' :: '_' :: cs => '.' :: pointed cs
  | c :: cs => c :: pointed cs
  | [] => []

/-- The key that a variable sets: what follows `DQ__` in its name, without regard to case. -/
def variableKey? (name : String) : Option String :=
  match (Text.lowercase name).toList with
  | 'd' :: 'q' :: '_' :: '_' :: cs => some (String.ofList (pointed cs))
  | _ => none

/-- The members that the text of a file has; none without a file. The text must be JSON from its
first character on: a byte order mark is not skipped. -/
def fileMembers? : Option String → Option (List (String × Json))
  | none => some []
  | some s =>
    match Json.ofText? 127 s with
    | some (.object ms) => some ms
    | _ => none

/-- The layers put together: the members of a file, and over them the variables. -/
def layers (file : List (String × Json)) (vars : List (String × String)) : Json :=
  let entries := file ++ vars.filterMap fun v => (variableKey? v.1).map (·, .text v.2)
  entries.foldl (fun target entry => assignKey entry.1 entry.2 target) (.object [])

/-- The settings of the text of a file, if there is one, and of variables. -/
def ofLayers (file : Option String) (vars : List (String × String)) :
    Except SettingsError Settings :=
  match (fileMembers? file).bind fun ms => lenient? (layers ms vars) with
  | some s => s.validated
  | none => .error .unreadable

theorem valid_ofLayers {file : Option String} {vars : List (String × String)} {s : Settings}
    (h : ofLayers file vars = .ok s) : s.Valid := by
  rw [ofLayers] at h
  split at h
  · next t _ =>
    obtain ⟨rfl, hv⟩ := validated_eq_ok_iff.1 h
    exact hv
  · cases h

end RecordQuery.Settings
