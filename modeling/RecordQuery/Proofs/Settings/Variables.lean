import RecordQuery.Engine.Basic
import RecordQuery.Proofs.Calendar.Scanning
import RecordQuery.Proofs.Literals.Numbers
import RecordQuery.Proofs.Paging.Arithmetic
import RecordQuery.Proofs.Queries.SortLists
import RecordQuery.Settings.Environment

/-!
# Settings from variables are all or nothing

Settings are read from variables exactly if every variable that is set spells a value of its
setting, and the settings that come of it are valid; a variable that is not set leaves its default.
Otherwise the fault is that of the first variable that spells nothing, in the order in which they
are read, or else the one that validation finds. It is a fault of the settings in any case, also
where sort directives are wrong arguments to whoever writes them elsewhere.

Results:
* `Integer.ofText?_eq_some_iff_spells`: the texts that spell integers.
* `readEnvironment_eq_ok_iff`, `readEnvironment_eq_error_iff`: what is read, and the first fault.
* `PageRequest.clamp_clamp`: a page that was fitted to valid settings fits them.
* `ofEnvironment_allOrNothing`: success and failure, and what the settings are good for.
-/

namespace RecordQuery

/-! ## Integers -/

namespace Integer

/-- A text that spells an integer: digits of ASCII, at least one, after an optional sign. -/
inductive Spells : List Char → Int → Prop where
  | plain {ds : List Digit} (hds : ds ≠ []) : Spells (Digits.text ds) (Digits.value ds)
  | plus {ds : List Digit} (hds : ds ≠ []) : Spells ('+' :: Digits.text ds) (Digits.value ds)
  | minus {ds : List Digit} (hds : ds ≠ []) :
    Spells ('-' :: Digits.text ds) (-(Digits.value ds : Int))

theorem splitSign_text {ds : List Digit} (hds : ds ≠ []) :
    splitSign (Digits.text ds) = (false, Digits.text ds) := by
  obtain ⟨d, ds, rfl⟩ := List.exists_cons_of_ne_nil hds
  exact splitSign_of_digit d _

/-- What is left without the sign are digits exactly if the whole spells an integer. -/
theorem spells_iff {cs : List Char} {i : Int} :
    Spells cs i ↔ ∃ ds ≠ [], (splitSign cs).2 = Digits.text ds ∧
      i = signed (splitSign cs).1 (Digits.value ds) := by
  constructor
  · intro h
    cases h with
    | plain hds =>
      refine ⟨_, hds, ?_⟩
      rw [splitSign_text hds]
      exact ⟨rfl, rfl⟩
    | plus hds => exact ⟨_, hds, rfl, rfl⟩
    | minus hds => exact ⟨_, hds, rfl, rfl⟩
  · rintro ⟨ds, hds, htext, rfl⟩
    unfold splitSign at htext ⊢
    split at htext
    · next rest =>
      have hrest : rest = Digits.text ds := htext
      rw [hrest]
      exact .minus hds
    · next rest =>
      have hrest : rest = Digits.text ds := htext
      rw [hrest]
      exact .plus hds
    · have hcs : cs = Digits.text ds := htext
      rw [hcs]
      exact .plain hds

theorem ofText?_eq_some_iff_spells {s : String} {i : Int} :
    ofText? s = some i ↔ Spells s.toList i := by
  have hscan : ∀ ds, Digits.scan (splitSign s.toList).2 = (ds, []) ↔
      (splitSign s.toList).2 = Digits.text ds := by
    intro ds
    rw [Digits.scan_eq_iff, List.append_nil]
    exact and_iff_left Digits.ends_nil
  rw [spells_iff]
  constructor
  · intro h
    unfold ofText? at h
    split at h
    · cases h
    · next d ds hds =>
      cases h
      exact ⟨d :: ds, List.cons_ne_nil _ _, (hscan _).mp hds, rfl⟩
    · cases h
  · rintro ⟨ds, hds, htext, rfl⟩
    obtain ⟨d, ds, rfl⟩ := List.exists_cons_of_ne_nil hds
    unfold ofText?
    rw [(hscan _).mpr htext]

end Integer

/-! ## Pages -/

namespace PageRequest

variable {settings : Settings} {rows page : Int64}

theorem clamp_of_fits (hrows : 0 < rows) (hmax : rows ≤ settings.maxRows) (hpage : 1 ≤ page) :
    clamp settings rows page = ⟨rows, page⟩ := by
  have hmin : min rows settings.maxRows = rows := if_pos hmax
  rw [clamp, if_neg (Int64.not_le.mpr hrows), if_neg (Int64.not_lt.mpr hpage), hmin]

/-- A page that was fitted to valid settings fits them, so fitting it again changes nothing. -/
theorem clamp_clamp (h : settings.Valid) (rows page : Int64) :
    clamp settings (clamp settings rows page).rows (clamp settings rows page).page =
      clamp settings rows page :=
  clamp_of_fits (rows_clamp h rows page).1 (rows_clamp h rows page).2
    (one_le_page_clamp h rows page)

end PageRequest

theorem Engine.make_eq_ok {s : Settings} (h : s.Valid) : make s = .ok ⟨s, h⟩ := by
  unfold make
  split
  · rfl
  · next e he =>
    rw [Settings.validate_eq_ok_iff.mpr h] at he
    cases he

namespace Settings

/-! ## What variables spell -/

/-- The variables that settings are read from. -/
inductive Variable where
  | defaultPage | defaultRows | maxRows | defaultSort | sortComposition | paginateData

/-- The name of a variable. -/
def Variable.name : Variable → String
  | defaultPage => "DQ_DEFAULT_PAGE"
  | defaultRows => "DQ_DEFAULT_ROWS"
  | maxRows => "DQ_MAX_ROWS"
  | defaultSort => "DQ_DEFAULT_SORT"
  | sortComposition => "DQ_SORT_COMPOSITION"
  | paginateData => "DQ_PAGINATE_DATA"

/-- The variables, in the order in which they are read. -/
def Variable.all : List Variable :=
  [defaultPage, defaultRows, maxRows, defaultSort, sortComposition, paginateData]

/-- The text of a variable spells a number of 64 bits; white space around it does not count. -/
def SpellsInteger (value : String) (n : Int64) : Prop :=
  Integer.Spells (Text.trim value).toList n.toInt

/-- The names of a sort composition. -/
def compositionNames : SortComposition → List String
  | .multiKey => ["multi_key", "multikey"]
  | .sequential => ["sequential"]

/-- The text of a variable names a sort composition, in any case. -/
def SpellsComposition (value : String) (c : SortComposition) : Prop :=
  Text.lowercase value ∈ compositionNames c

/-- The words for a truth value. -/
def booleanWords (b : Bool) : List String :=
  if b then ["true", "1", "yes"] else ["false", "0", "no"]

/-- The text of a variable is a word for a truth value, in any case; white space around it does not
count. -/
def SpellsBoolean (value : String) (b : Bool) : Prop :=
  ∃ word ∈ booleanWords b, Text.eqIgnoringCase (Text.trim value) word = true

instance (value : String) (b : Bool) : Decidable (SpellsBoolean value b) :=
  inferInstanceAs
    (Decidable (∃ word ∈ booleanWords b, Text.eqIgnoringCase (Text.trim value) word = true))

variable {name value : String} {cause : SettingsError}

theorem integerOf_eq_ok_iff {n : Int64} :
    integerOf name value = .ok n ↔ SpellsInteger value n := by
  rw [SpellsInteger, ← Integer.ofText?_eq_some_iff_spells, ← Integer.int64OfText?_eq_some_iff,
    integerOf]
  cases Integer.int64OfText? (Text.trim value) <;> simp

theorem integerOf_eq_error_iff : integerOf name value = .error cause ↔
    (∀ n, ¬SpellsInteger value n) ∧ cause = .notInteger name value := by
  refine eq_error_iff_of_fault (fun _ => integerOf_eq_ok_iff) fun c h => ?_
  unfold integerOf at h
  split at h
  · cases h
  · cases h
    rfl

theorem sortOf_eq_ok_iff {ds : List SortDirective} :
    sortOf name value = .ok ds ↔ SortDirective.Says value ds :=
  mapError_eq_ok_iff.trans SortDirective.listOfText_eq_ok_iff

theorem sortOf_eq_error_iff : sortOf name value = .error cause ↔
    ∃ fault, SortDirective.listOfText value = .error fault ∧ cause = .badSort name fault := by
  rw [sortOf, mapError_eq_error_iff]
  simp only [eq_comm]

theorem compositionOfText?_eq_some_iff {c : SortComposition} :
    SortComposition.ofText? value = some c ↔ SpellsComposition value c := by
  unfold SortComposition.ofText? SpellsComposition
  generalize Text.lowercase value = word
  by_cases hmulti : word = "multi_key" ∨ word = "multikey"
  · rcases hmulti with rfl | rfl <;> cases c <;> simp [compositionNames]
  · by_cases hsequential : word = "sequential"
    · subst hsequential
      cases c <;> simp [compositionNames]
    · cases c <;> simp [compositionNames, hmulti, hsequential]

theorem compositionOf_eq_ok_iff {c : SortComposition} :
    compositionOf name value = .ok c ↔ SpellsComposition value c := by
  rw [← compositionOfText?_eq_some_iff, compositionOf]
  cases SortComposition.ofText? value <;> simp

theorem compositionOf_eq_error_iff : compositionOf name value = .error cause ↔
    (∀ c, ¬SpellsComposition value c) ∧ cause = .unknownComposition name value := by
  refine eq_error_iff_of_fault (fun _ => compositionOf_eq_ok_iff) fun c h => ?_
  unfold compositionOf at h
  split at h
  · cases h
  · cases h
    rfl

/-- No text is a word for both truth values. -/
theorem SpellsBoolean.eq {b c : Bool} (hb : SpellsBoolean value b) (hc : SpellsBoolean value c) :
    b = c := by
  have hwords : ∀ b c, ∀ v ∈ booleanWords b, ∀ w ∈ booleanWords c,
      Text.eqIgnoringCase v w = true → b = c := by decide
  obtain ⟨v, hv, hb⟩ := hb
  obtain ⟨w, hw, hc⟩ := hc
  exact hwords b c v hv w hw (Text.eqIgnoringCase_trans (Text.eqIgnoringCase_symm hb) hc)

theorem any_eqIgnoringCase_iff (b : Bool) :
    (booleanWords b).any (Text.eqIgnoringCase (Text.trim value)) = true ↔ SpellsBoolean value b :=
  List.any_eq_true

theorem booleanOf_eq (name value : String) : booleanOf name value =
    if (booleanWords true).any (Text.eqIgnoringCase (Text.trim value)) then .ok true
    else if (booleanWords false).any (Text.eqIgnoringCase (Text.trim value)) then .ok false
    else .error (.notBoolean name value) := rfl

theorem booleanOf_eq_ok_iff {b : Bool} : booleanOf name value = .ok b ↔ SpellsBoolean value b := by
  simp only [booleanOf_eq, any_eqIgnoringCase_iff]
  split
  · next htrue =>
    rw [Except.ok.injEq]
    exact ⟨fun h => h ▸ htrue, htrue.eq⟩
  · next htrue =>
    split
    · next hfalse =>
      rw [Except.ok.injEq]
      exact ⟨fun h => h ▸ hfalse, hfalse.eq⟩
    · next hfalse => cases b <;> simp [htrue, hfalse]

theorem booleanOf_eq_error_iff : booleanOf name value = .error cause ↔
    (∀ b, ¬SpellsBoolean value b) ∧ cause = .notBoolean name value := by
  refine eq_error_iff_of_fault (fun _ => booleanOf_eq_ok_iff) fun c h => ?_
  rw [booleanOf_eq] at h
  split at h
  · cases h
  · split at h
    · cases h
    · cases h
      rfl

/-! ## Variable by variable -/

variable {α β : Type} {env : Environment} {s : Settings} {v : Variable} {vs : List Variable}

/-- What a variable leaves for its setting: what its text spells, or the default if it is unset. -/
def Leaves (env : Environment) (v : Variable) (default : α) (Spells : String → α → Prop) (a : α) :
    Prop :=
  match env v.name with
  | some value => Spells value a
  | none => a = default

/-- Settings that variables spell, with the defaults of those that are unset. -/
structure ReadFrom (env : Environment) (s : Settings) : Prop where
  defaultPage : Leaves env .defaultPage 1 SpellsInteger s.defaultPage
  defaultRows : Leaves env .defaultRows 10 SpellsInteger s.defaultRows
  maxRows : Leaves env .maxRows 100 SpellsInteger s.maxRows
  defaultSort : Leaves env .defaultSort [] SortDirective.Says s.defaultSort
  sortComposition : Leaves env .sortComposition .multiKey SpellsComposition s.sortComposition
  paginateData : Leaves env .paginateData true SpellsBoolean s.paginateData

/-- The fault of a text that spells nothing for a variable. -/
def Variable.Rejects (v : Variable) (value : String) (cause : SettingsError) : Prop :=
  match v with
  | defaultPage | defaultRows | maxRows =>
    (∀ n, ¬SpellsInteger value n) ∧ cause = .notInteger v.name value
  | defaultSort =>
    ∃ fault, SortDirective.listOfText value = .error fault ∧ cause = .badSort v.name fault
  | sortComposition =>
    (∀ c, ¬SpellsComposition value c) ∧ cause = .unknownComposition v.name value
  | paginateData => (∀ b, ¬SpellsBoolean value b) ∧ cause = .notBoolean v.name value

/-- A variable is set to a text that spells nothing for it, which is this fault. -/
def Fault (env : Environment) (v : Variable) (cause : SettingsError) : Prop :=
  ∃ value, env v.name = some value ∧ v.Rejects value cause

/-- The first faulty one of some variables has this fault. -/
def FirstFault (env : Environment) (vs : List Variable) (cause : SettingsError) : Prop :=
  ∃ before v after, vs = before ++ v :: after ∧ (∀ b ∈ before, ∀ c, ¬Fault env b c) ∧
    Fault env v cause

section Reading

variable {default : α} {read : String → String → Except SettingsError α}

theorem variableOr_eq_ok_iff (v : Variable) {Spells : String → α → Prop}
    (h : ∀ value a, read v.name value = .ok a ↔ Spells value a) {a : α} :
    variableOr env v.name default read = .ok a ↔ Leaves env v default Spells a := by
  unfold variableOr Leaves
  cases env v.name with
  | some value => exact h value a
  | none => simp [eq_comm]

theorem variableOr_eq_error_iff (v : Variable)
    (h : ∀ value, read v.name value = .error cause ↔ v.Rejects value cause) :
    variableOr env v.name default read = .error cause ↔ Fault env v cause := by
  unfold variableOr Fault
  cases env v.name with
  | some value => simp [h]
  | none => simp

end Reading

/-- A variable that is read before others comes first with its fault. -/
theorem bind_eq_error_iff_firstFault {x : Except SettingsError α} {f : α → Except SettingsError β}
    (hx : ∀ c, x = .error c ↔ Fault env v c)
    (hf : ∀ a, f a = .error cause ↔ FirstFault env vs cause) :
    x >>= f = .error cause ↔ FirstFault env (v :: vs) cause := by
  rw [bind_eq_error_iff, hx]
  constructor
  · rintro (h | ⟨a, ha, h⟩)
    · exact ⟨[], v, vs, rfl, nofun, h⟩
    · obtain ⟨before, w, after, rfl, hbefore, hw⟩ := (hf a).mp h
      refine ⟨v :: before, w, after, rfl, List.forall_mem_cons.mpr ⟨fun c hc => ?_, hbefore⟩, hw⟩
      rw [← hx, ha] at hc
      cases hc
  · rintro ⟨_ | ⟨b, before⟩, w, after, hsplit, hbefore, hw⟩
    · cases hsplit
      exact .inl hw
    · cases hsplit
      obtain ⟨hv, hbefore⟩ := List.forall_mem_cons.mp hbefore
      cases hread : x with
      | error c => exact absurd ((hx c).mp hread) (hv c)
      | ok a => exact .inr ⟨a, rfl, (hf a).mpr ⟨before, w, after, rfl, hbefore, hw⟩⟩

theorem not_firstFault_nil : ¬FirstFault env [] cause := by
  rintro ⟨before, v, after, hsplit, -⟩
  exact List.append_ne_nil_of_right_ne_nil before (List.cons_ne_nil v after) hsplit.symm

theorem readEnvironment_eq_ok_iff : readEnvironment env = .ok s ↔ ReadFrom env s := by
  have hinteger (v : Variable) {default n : Int64} :
      variableOr env v.name default integerOf = .ok n ↔ Leaves env v default SpellsInteger n :=
    variableOr_eq_ok_iff v fun _ _ => integerOf_eq_ok_iff
  have hsort (v : Variable) {default ds : List SortDirective} :
      variableOr env v.name default sortOf = .ok ds ↔ Leaves env v default SortDirective.Says ds :=
    variableOr_eq_ok_iff v fun _ _ => sortOf_eq_ok_iff
  have hcomposition (v : Variable) {default c : SortComposition} :
      variableOr env v.name default compositionOf = .ok c ↔
        Leaves env v default SpellsComposition c :=
    variableOr_eq_ok_iff v fun _ _ => compositionOf_eq_ok_iff
  have hboolean (v : Variable) {default b : Bool} :
      variableOr env v.name default booleanOf = .ok b ↔ Leaves env v default SpellsBoolean b :=
    variableOr_eq_ok_iff v fun _ _ => booleanOf_eq_ok_iff
  unfold readEnvironment
  simp only [bind_eq_ok_iff]
  constructor
  · rintro ⟨page, hpage, rows, hrows, max, hmax, sort, hds, composition, hc, paginate, hb, hs⟩
    cases hs
    exact {
      defaultPage := (hinteger .defaultPage).mp hpage
      defaultRows := (hinteger .defaultRows).mp hrows
      maxRows := (hinteger .maxRows).mp hmax
      defaultSort := (hsort .defaultSort).mp hds
      sortComposition := (hcomposition .sortComposition).mp hc
      paginateData := (hboolean .paginateData).mp hb }
  · intro h
    exact ⟨s.defaultPage, (hinteger .defaultPage).mpr h.defaultPage,
      s.defaultRows, (hinteger .defaultRows).mpr h.defaultRows,
      s.maxRows, (hinteger .maxRows).mpr h.maxRows,
      s.defaultSort, (hsort .defaultSort).mpr h.defaultSort,
      s.sortComposition, (hcomposition .sortComposition).mpr h.sortComposition,
      s.paginateData, (hboolean .paginateData).mpr h.paginateData, rfl⟩

theorem readEnvironment_eq_error_iff :
    readEnvironment env = .error cause ↔ FirstFault env Variable.all cause := by
  unfold readEnvironment
  refine bind_eq_error_iff_firstFault
    (fun _ => variableOr_eq_error_iff .defaultPage fun _ => integerOf_eq_error_iff) fun page => ?_
  refine bind_eq_error_iff_firstFault
    (fun _ => variableOr_eq_error_iff .defaultRows fun _ => integerOf_eq_error_iff) fun rows => ?_
  refine bind_eq_error_iff_firstFault
    (fun _ => variableOr_eq_error_iff .maxRows fun _ => integerOf_eq_error_iff) fun max => ?_
  refine bind_eq_error_iff_firstFault
    (fun _ => variableOr_eq_error_iff .defaultSort fun _ => sortOf_eq_error_iff) fun sort => ?_
  refine bind_eq_error_iff_firstFault
    (fun _ => variableOr_eq_error_iff .sortComposition fun _ => compositionOf_eq_error_iff)
    fun composition => ?_
  refine bind_eq_error_iff_firstFault
    (fun _ => variableOr_eq_error_iff .paginateData fun _ => booleanOf_eq_error_iff)
    fun paginate => ?_
  exact iff_of_false nofun not_firstFault_nil

theorem validated_eq_error_iff : s.validated = .error cause ↔ s.validate = .error cause := by
  unfold validated
  cases s.validate <;> simp

theorem ofEnvironment_eq_ok_iff : ofEnvironment env = .ok s ↔ ReadFrom env s ∧ s.Valid := by
  rw [← readEnvironment_eq_ok_iff]
  refine bind_eq_ok_iff.trans ?_
  simp only [validated_eq_ok_iff]
  constructor
  · rintro ⟨t, ht, rfl, hvalid⟩
    exact ⟨ht, hvalid⟩
  · rintro ⟨hs, hvalid⟩
    exact ⟨s, hs, rfl, hvalid⟩

theorem ofEnvironment_eq_error_iff : ofEnvironment env = .error cause ↔
    FirstFault env Variable.all cause ∨ ∃ s, ReadFrom env s ∧ s.validate = .error cause := by
  refine bind_eq_error_iff.trans ?_
  simp only [readEnvironment_eq_error_iff, readEnvironment_eq_ok_iff, validated_eq_error_iff]

/-- Settings from variables are all or nothing. They are there exactly if every variable that is set
spells its setting and they are valid as a whole; an engine takes them then, and every page that is
asked for is fitted to them once and for all. Otherwise it is a fault of the settings: that of the
first faulty variable, or else of validation. -/
theorem ofEnvironment_allOrNothing (env : Environment) :
    (∀ s, ofEnvironment env = .ok s ↔ ReadFrom env s ∧ s.Valid) ∧
      (∀ s, ofEnvironment env = .ok s →
        (∃ e, Engine.make s = .ok e ∧ e.settings = s) ∧
          ∀ rows page,
            let r := PageRequest.clamp s rows page
            1 ≤ r.rows ∧ r.rows ≤ s.maxRows ∧ 1 ≤ r.page ∧
              PageRequest.clamp s r.rows r.page = r) ∧
      ∀ err, (ofEnvironment env).mapError QueryError.settings = .error err ↔
        ∃ cause, err = .settings cause ∧
          (FirstFault env Variable.all cause ∨
            ∃ s, ReadFrom env s ∧ s.validate = .error cause) := by
  refine ⟨fun _ => ofEnvironment_eq_ok_iff, fun s hs => ?_, fun err => ?_⟩
  · have hvalid := valid_ofEnvironment hs
    refine ⟨⟨⟨s, hvalid⟩, Engine.make_eq_ok hvalid, rfl⟩, fun rows page => ?_⟩
    obtain ⟨hpos, hmax⟩ := PageRequest.rows_clamp hvalid rows page
    exact ⟨Word.one_le_of_pos hpos, hmax, PageRequest.one_le_page_clamp hvalid rows page,
      PageRequest.clamp_clamp hvalid rows page⟩
  · rw [mapError_eq_error_iff]
    simp only [ofEnvironment_eq_error_iff]
    exact exists_congr fun cause => by rw [and_comm, eq_comm]

/-- Blanks around an integer and the case of words count for nothing. Of two faulty variables, the
one that is read first is reported. -/
theorem ofEnvironment_allOrNothing_mixed :
    let env : Environment := fun name =>
      if name = "DQ_DEFAULT_ROWS" then some " +25 "
      else if name = "DQ_DEFAULT_SORT" then some "Name:DESC, ,Age"
      else if name = "DQ_PAGINATE_DATA" then some "No" else none
    let faulty : Environment := fun name =>
      if name = "DQ_PAGINATE_DATA" then some "maybe"
      else if name = "DQ_DEFAULT_SORT" then some "Name:up" else none
    let s : Settings :=
      { defaultRows := 25, defaultSort := [⟨"Name", false⟩, ⟨"Age", true⟩], paginateData := false }
    let cause : SettingsError := .badSort "DQ_DEFAULT_SORT" (.unknownDirection "up")
    ofEnvironment env = .ok s ∧ ReadFrom env s ∧ (∃ e, Engine.make s = .ok e ∧ e.settings = s) ∧
      PageRequest.clamp s 1000 0 = ⟨100, 1⟩ ∧ FirstFault faulty Variable.all cause ∧
      (ofEnvironment faulty).mapError QueryError.settings = .error (.settings cause) := by
  intro env faulty s cause
  obtain ⟨hread, hserves, -⟩ := ofEnvironment_allOrNothing env
  obtain ⟨-, -, hfails⟩ := ofEnvironment_allOrNothing faulty
  have hs : ofEnvironment env = .ok s := rfl
  have hfault : FirstFault faulty Variable.all cause := readEnvironment_eq_error_iff.mp rfl
  exact ⟨hs, ((hread s).mp hs).1, (hserves s hs).1, by decide, hfault,
    (hfails _).mpr ⟨cause, rfl, .inl hfault⟩⟩

end Settings

end RecordQuery
