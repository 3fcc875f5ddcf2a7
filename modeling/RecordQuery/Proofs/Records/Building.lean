import Mathlib.Data.List.Induction
import RecordQuery.Data.Schema

/-!
# Schemas that are built call by call

A schema is built by calls that add one member each. A member of a name that is there already takes
its place and moves to the end, so the calls that count are the last ones of each name: they give
the members their types and their order.

Results:
* `lastCall_concat_iff`: one more call is the last of its name, and takes that from an earlier one.
* `mem_ofMembers_iff`, `pairwise_ofMembers`: the members and their order, for any list of calls.
* `find?_eq_some_iff_first`, `find?_eq_none_iff_forall`: what a text looks up.
* `ofCalls_builtBy`: what is built, and what is found in it.
-/

namespace RecordQuery.Schema

variable {κ : Type} {s : Schema κ} {ms : List (Member κ)} {m x : Member κ}

/-! ## Calls -/

/-- A call that adds a member. -/
inductive Call (κ : Type) where
  /-- Adds a member of any type. -/
  | field (name : String) (type : MemberType κ)
  /-- Adds a nested record of a schema. -/
  | object (name : String) (ref : κ)
  /-- Adds a constant of an enumerated type. -/
  | enumeration (name : String) (e : Enumeration)

/-- The member that a call adds. -/
def Call.member : Call κ → Member κ
  | field name type => ⟨name, type⟩
  | object name ref => ⟨name, .object ref⟩
  | enumeration name e => ⟨name, .scalar (.enumeration e)⟩

/-- The schema that calls build, one after another. -/
def ofCalls (name : String) (calls : List (Call κ)) : Schema κ :=
  ofMembers name (calls.map Call.member)

/-- At a place in a list of added members stands a member, and none of its name after it. -/
structure LastCall (ms : List (Member κ)) (i : ℕ) (m : Member κ) : Prop where
  call : ms[i]? = some m
  last : ∀ j x, i < j → ms[j]? = some x → x.name ≠ m.name

theorem LastCall.lt_length {i : ℕ} (h : LastCall ms i m) : i < ms.length :=
  (List.getElem?_eq_some_iff.mp h.call).1

/-- One more member is the last of its name, and no other one of its name is the last any more. -/
theorem lastCall_concat_iff {i : ℕ} :
    LastCall (ms ++ [m]) i x ↔ i = ms.length ∧ x = m ∨ LastCall ms i x ∧ x.name ≠ m.name := by
  have hlast : (ms ++ [m])[ms.length]? = some m := List.getElem?_concat_length
  constructor
  · rintro ⟨hcall, hafter⟩
    have hi : i < ms.length + 1 := by
      have := (List.getElem?_eq_some_iff.mp hcall).1
      rwa [List.length_append, List.length_singleton] at this
    rcases Nat.lt_succ_iff_lt_or_eq.mp hi with hi | rfl
    · rw [List.getElem?_append_left hi] at hcall
      refine .inr ⟨⟨hcall, ?_⟩, (hafter ms.length m hi hlast).symm⟩
      intro j y hij hy
      have hj : j < ms.length := (List.getElem?_eq_some_iff.mp hy).1
      exact hafter j y hij (by rwa [List.getElem?_append_left hj])
    · rw [hlast] at hcall
      exact .inl ⟨rfl, (Option.some.inj hcall).symm⟩
  · rintro (⟨rfl, rfl⟩ | ⟨h, hne⟩)
    · refine ⟨hlast, ?_⟩
      intro j y hj hy
      have := (List.getElem?_eq_some_iff.mp hy).1
      rw [List.length_append, List.length_singleton] at this
      omega
    · refine ⟨by rw [List.getElem?_append_left h.lt_length, h.call], ?_⟩
      intro j y hij hy
      by_cases hj : j < ms.length
      · rw [List.getElem?_append_left hj] at hy
        exact h.last j y hij hy
      · have := (List.getElem?_eq_some_iff.mp hy).1
        rw [List.length_append, List.length_singleton] at this
        obtain rfl : j = ms.length := by omega
        rw [hlast] at hy
        cases hy
        exact hne.symm

/-! ## What calls build -/

theorem ofMembers_concat (name : String) (ms : List (Member κ)) (m : Member κ) :
    ofMembers name (ms ++ [m]) = (ofMembers name ms).add m :=
  List.foldl_append

/-- The members are those that no later call replaces. -/
theorem mem_ofMembers_iff (name : String) (ms : List (Member κ)) (x : Member κ) :
    x ∈ (ofMembers name ms).members ↔ ∃ i, LastCall ms i x := by
  induction ms using List.reverseRecOn with
  | nil =>
    constructor
    · intro h
      cases h
    · rintro ⟨i, h⟩
      exact absurd h.lt_length (Nat.not_lt_zero i)
  | append_singleton ms m ih =>
    rw [ofMembers_concat, mem_add_iff, ih]
    simp only [lastCall_concat_iff]
    constructor
    · rintro (rfl | ⟨⟨i, hi⟩, hne⟩)
      · exact ⟨ms.length, .inl ⟨rfl, rfl⟩⟩
      · exact ⟨i, .inr ⟨hi, hne⟩⟩
    · rintro ⟨i, ⟨-, rfl⟩ | ⟨hi, hne⟩⟩
      · exact .inl rfl
      · exact .inr ⟨⟨i, hi⟩, hne⟩

/-- Every name that a call adds is that of a last call. -/
theorem exists_lastCall_iff (ms : List (Member κ)) (name : String) :
    (∃ i x, LastCall ms i x ∧ x.name = name) ↔ name ∈ ms.map Member.name := by
  induction ms using List.reverseRecOn with
  | nil =>
    constructor
    · rintro ⟨i, x, h, -⟩
      exact absurd h.lt_length (Nat.not_lt_zero i)
    · intro h
      cases h
  | append_singleton ms m ih =>
    rw [List.map_append, List.mem_append, List.map_singleton, List.mem_singleton, ← ih]
    simp only [lastCall_concat_iff]
    constructor
    · rintro ⟨i, x, ⟨-, rfl⟩ | ⟨hi, -⟩, rfl⟩
      · exact .inr rfl
      · exact .inl ⟨i, x, hi, rfl⟩
    · rintro (⟨i, x, hi, rfl⟩ | rfl)
      · by_cases hname : x.name = m.name
        · exact ⟨ms.length, m, .inl ⟨rfl, rfl⟩, hname.symm⟩
        · exact ⟨i, x, .inr ⟨hi, hname⟩, rfl⟩
      · exact ⟨ms.length, m, .inl ⟨rfl, rfl⟩, rfl⟩

/-- The members are in the order of the calls that count. -/
theorem pairwise_ofMembers (name : String) (ms : List (Member κ)) :
    (ofMembers name ms).members.Pairwise fun a b =>
      ∀ i j, LastCall ms i a → LastCall ms j b → i < j := by
  induction ms using List.reverseRecOn with
  | nil => exact List.Pairwise.nil
  | append_singleton ms m ih =>
    rw [ofMembers_concat]
    have hold : ∀ a ∈ (ofMembers name ms).members.filter (·.name != m.name),
        ∀ i, LastCall (ms ++ [m]) i a → LastCall ms i a := by
      intro a ha i hi
      have hne : a.name ≠ m.name := bne_iff_ne.mp (List.mem_filter.mp ha).2
      rcases lastCall_concat_iff.mp hi with ⟨-, rfl⟩ | ⟨hi, -⟩
      · exact absurd rfl hne
      · exact hi
    refine List.pairwise_append.mpr ⟨?_, List.pairwise_singleton _ _, ?_⟩
    · refine (ih.filter _).imp_of_mem ?_
      intro a b ha hb hlt i j hi hj
      exact hlt i j (hold a ha i hi) (hold b hb j hj)
    · intro a ha b hb i j hi hj
      rw [List.mem_singleton.mp hb] at hj
      have hi' : i < ms.length := (hold a ha i hi).lt_length
      rcases lastCall_concat_iff.mp hj with ⟨rfl, -⟩ | ⟨-, hne⟩
      · exact hi'
      · exact absurd rfl hne

/-- What it means that the members of a schema are the added ones that count. -/
structure BuiltBy (s : Schema κ) (ms : List (Member κ)) : Prop where
  /-- No two members have one name. -/
  nodup : (s.members.map Member.name).Nodup
  /-- There is a member of every name that was ever added, and of no other name. -/
  names : ∀ name, name ∈ s.members.map Member.name ↔ name ∈ ms.map Member.name
  /-- Every member is as the last call of its name added it. -/
  last : ∀ m, m ∈ s.members ↔ ∃ i, LastCall ms i m
  /-- The members stand in the order of these calls. -/
  ordered : s.members.Pairwise fun a b => ∀ i j, LastCall ms i a → LastCall ms j b → i < j

theorem builtBy_ofMembers (name : String) (ms : List (Member κ)) :
    (ofMembers name ms).BuiltBy ms where
  nodup := (ofMembers name ms).nodup
  names n := by
    rw [← exists_lastCall_iff ms n, List.mem_map]
    simp only [mem_ofMembers_iff]
    constructor
    · rintro ⟨x, ⟨i, hi⟩, hname⟩
      exact ⟨i, x, hi, hname⟩
    · rintro ⟨i, x, hi, hname⟩
      exact ⟨x, ⟨i, hi⟩, hname⟩
  last := mem_ofMembers_iff name ms
  ordered := pairwise_ofMembers name ms

/-! ## Lookup -/

/-- The first member whose name differs from a text at most in the case of ASCII letters. -/
def FirstIgnoringCase (s : Schema κ) (text : String) (m : Member κ) : Prop :=
  Text.eqIgnoringCase m.name text = true ∧ ∃ before after, s.members = before ++ m :: after ∧
    ∀ x ∈ before, Text.eqIgnoringCase x.name text = false

variable {text : String}

theorem members_find?_name_eq_some_iff :
    s.members.find? (·.name == text) = some m ↔ m ∈ s.members ∧ m.name = text := by
  constructor
  · intro h
    exact ⟨List.mem_of_find?_eq_some h, by simpa using List.find?_some h⟩
  · rintro ⟨hm, rfl⟩
    cases hfind : s.members.find? (·.name == m.name) with
    | none => simpa using List.find?_eq_none.mp hfind m hm
    | some x =>
      have hname : x.name = m.name := by simpa using List.find?_some hfind
      rw [eq_of_mem_of_name_eq (List.mem_of_find?_eq_some hfind) hm hname]

theorem members_find?_name_eq_none_iff :
    s.members.find? (·.name == text) = none ↔ ∀ x ∈ s.members, x.name ≠ text := by
  simp [List.find?_eq_none]

/-- A text looks up the member of exactly that name, and if there is none, the first one of that
name in another case. -/
theorem find?_eq_some_iff_first : s.find? text = some m ↔
    m ∈ s.members ∧ m.name = text ∨
      (∀ x ∈ s.members, x.name ≠ text) ∧ s.FirstIgnoringCase text m := by
  rw [find?, Option.orElse_apply, Option.orElse_eq_or, Option.or_eq_some_iff,
    members_find?_name_eq_some_iff, members_find?_name_eq_none_iff,
    List.find?_eq_some_iff_append]
  simp only [FirstIgnoringCase, Bool.not_eq_true']

/-- A text looks up nothing if no member has that name in any case. -/
theorem find?_eq_none_iff_forall :
    s.find? text = none ↔ ∀ x ∈ s.members, Text.eqIgnoringCase x.name text = false := by
  rw [find?, Option.orElse_apply, Option.orElse_eq_or, Option.or_eq_none_iff,
    members_find?_name_eq_none_iff, List.find?_eq_none]
  simp only [Bool.not_eq_true]
  constructor
  · exact fun h => h.2
  · refine fun h => ⟨?_, h⟩
    rintro x hx rfl
    have hsame := h x hx
    rw [Text.eqIgnoringCase_refl] at hsame
    cases hsame

/-- A schema has the last member that was added of each name, in the order of these calls. A text
looks up the member of exactly that name, else the first one of that name in another case; so every
member is looked up by its own name. -/
theorem ofCalls_builtBy (name : String) (calls : List (Call κ)) :
    let s := ofCalls name calls
    s.BuiltBy (calls.map Call.member) ∧
      (∀ text m, s.find? text = some m ↔
        m ∈ s.members ∧ m.name = text ∨
          (∀ x ∈ s.members, x.name ≠ text) ∧ s.FirstIgnoringCase text m) ∧
      (∀ text, s.find? text = none ↔
        ∀ x ∈ s.members, Text.eqIgnoringCase x.name text = false) ∧
      ∀ m ∈ s.members, s.find? m.name = some m := by
  intro s
  exact ⟨builtBy_ofMembers name _, fun _ _ => find?_eq_some_iff_first,
    fun _ => find?_eq_none_iff_forall, fun _ hm => find?_of_mem hm⟩

/-- A name that is added again moves to the end, and one that differs in case is another name. -/
example :
    let s : Schema Unit := ofCalls "Person"
      [.field "Name" (.scalar .text), .object "Manager" (), .field "name" (.scalar .bool),
        .field "Name" (.scalar .int32)]
    s.members = [⟨"Manager", .object ()⟩, ⟨"name", .scalar .bool⟩, ⟨"Name", .scalar .int32⟩] ∧
      s.find? "Name" = some ⟨"Name", .scalar .int32⟩ ∧
      s.find? "NAME" = some ⟨"name", .scalar .bool⟩ := by
  decide

end RecordQuery.Schema
