import Mathlib.Data.List.Nodup
import RecordQuery.Json.Shape
import RecordQuery.Proofs.FirstFailure

/-!
# Structures that differ in one member

A structure is read member by member into a draft. Here two documents are read side by side that
differ in one member only: it is written in two ways, or is written in one of them and missing in
the other. If what is read of the member makes no difference in the drafts but one that is not
looked at, then neither do the documents; and if nothing can be read of the member, then nothing can
be read of the structure.

Results:
* `Alike.bind`: steps that go on alike from results that are alike.
* `readMembers_alike`, `readItems_alike`: the same members, read into two drafts.
* `MemberPlace.alike`, `ItemPlace.alike`: a part that is written in two ways.
* `MemberPlace.eq_error`, `ItemPlace.eq_error`: a part that cannot be read.
* `WrittenOut.alike`: a member that is missing and one that is written.
* `Respects.alike_of_memberRewritten`: a member that is written in another way of the same meaning.
-/

namespace RecordQuery

/-! ## Results that are alike -/

/-- Two results are alike if both are failures for the same cause, or both are values that stand in
a relation. -/
inductive Alike {ε α β : Type} (R : α → β → Prop) : Except ε α → Except ε β → Prop where
  | error (e : ε) : Alike R (.error e) (.error e)
  | ok {a : α} {b : β} (h : R a b) : Alike R (.ok a) (.ok b)

namespace Alike

variable {ε α β α' β' : Type} {R : α → β → Prop} {S : α' → β' → Prop}

theorem bind {x : Except ε α} {y : Except ε β} {f : α → Except ε α'} {g : β → Except ε β'}
    (h : Alike R x y) (hfg : ∀ a b, R a b → Alike S (f a) (g b)) :
    Alike S (x.bind f) (y.bind g) := by
  cases h with
  | error e => exact .error e
  | ok hab => exact hfg _ _ hab

theorem map {x : Except ε α} {y : Except ε β} {f : α → α'} {g : β → β'} (h : Alike R x y)
    (hfg : ∀ a b, R a b → S (f a) (g b)) : Alike S (x.map f) (y.map g) := by
  cases h with
  | error e => exact .error e
  | ok hab => exact .ok (hfg _ _ hab)

/-- The same result, changed in two ways that are alike. -/
theorem map_self {f : α → α'} {g : α → β'} (h : ∀ a, S (f a) (g a)) (x : Except ε α) :
    Alike S (x.map f) (x.map g) := by
  cases x with
  | error e => exact .error e
  | ok a => exact .ok (h a)

/-- The same result, gone on from in two ways that are alike. -/
theorem bind_self {f : α → Except ε α'} {g : α → Except ε β'} (h : ∀ a, Alike S (f a) (g a))
    (x : Except ε α) : Alike S (x.bind f) (x.bind g) := by
  cases x with
  | error e => exact .error e
  | ok a => exact h a

/-- Two lists that differ in one item only. -/
theorem mapM {f : α' → Except ε α} {S : List α → List α → Prop} {R : α → α → Prop} {a b : α'}
    (front back : List α') (h : Alike R (f a) (f b))
    (hS : ∀ before after c d, before.length = front.length → R c d →
      S (before ++ c :: after) (before ++ d :: after)) :
    Alike S ((front ++ a :: back).mapM f) ((front ++ b :: back).mapM f) := by
  rw [List.mapM_append, List.mapM_append, mapM_cons_eq, mapM_cons_eq]
  refine Alike.bind (R := fun as bs => as = bs ∧ as.length = front.length) ?_ ?_
  · cases hfront : front.mapM f with
    | error e => exact .error e
    | ok before => exact .ok ⟨rfl, (mapM_eq_ok_iff.mp hfront).length_eq.symm⟩
  · rintro before _ ⟨rfl, hlength⟩
    refine Alike.bind (R := fun as bs => ∃ c d after, R c d ∧ as = c :: after ∧ bs = d :: after)
      (h.bind ?_) ?_
    · intro c d hcd
      exact map_self (fun after => ⟨c, d, after, hcd, rfl, rfl⟩) (back.mapM f)
    · rintro _ _ ⟨c, d, after, hcd, rfl, rfl⟩
      exact .ok (hS before after c d hlength hcd)

end Alike

namespace Json

open Document

variable {δ : Type} {slots : List (Slot δ)} {slot : Slot δ} {name : String}
  {L : δ → δ → Prop} {C : Document → Document}

/-! ## The same members, read into two drafts -/

/-- Reading a member keeps drafts in a relation: both have the member or neither, and what is read
of it is put into both alike. -/
structure Slot.Keeps (slot : Slot δ) (L : δ → δ → Prop) : Prop where
  filled_eq {p q : δ} (h : L p q) : slot.filled p = slot.filled q
  read_alike {p q : δ} (h : L p q) (d : Document) : Alike L (slot.read d p) (slot.read d q)

/-- What is read of a declared member, whatever the draft is that it is put into. -/
theorem Slot.option_alike {α : Type} {get : δ → Option α} {set : δ → α → δ}
    {read : Reader α} {p q : δ} {R : α → α → Prop} {d e : Document}
    (h : Alike R (read d) (read e)) (hset : ∀ a b, R a b → L (set p a) (set q b)) :
    Alike L ((Slot.option name get set read).read d p)
      ((Slot.option name get set read).read e q) :=
  h.map hset

theorem Slot.option_error {α : Type} {get : δ → Option α} {set : δ → α → δ} {read : Reader α}
    {d : Document} {cause : Refusal} (h : read d = .error cause) (p : δ) :
    (Slot.option name get set read).read d p = .error cause := by
  simp only [Slot.option, h, Except.map]

theorem Slot.option_keeps {α : Type} {get : δ → Option α} {set : δ → α → δ} {read : Reader α}
    (hget : ∀ p q, L p q → (get p).isSome = (get q).isSome)
    (hset : ∀ p q a, L p q → L (set p a) (set q a)) :
    (Slot.option name get set read).Keeps L where
  filled_eq h := hget _ _ h
  read_alike {p q} h d := Alike.map_self (fun a => hset p q a h) (read d)

/-- Drafts that are in a relation have the member already. -/
def Slot.Filled (slot : Slot δ) (L : δ → δ → Prop) : Prop :=
  ∀ p q, L p q → slot.filled p = true ∧ slot.filled q = true

theorem readMembers_alike {ms : List (Option String × Document)}
    (hkeeps : ∀ s ∈ slots, some s.name ∈ ms.map Prod.fst → s.Keeps L ∨ s.Filled L) {p q : δ}
    (h : L p q) :
    Alike L (readMembers slots ms p) (readMembers slots ms q) := by
  induction ms generalizing p q with
  | nil => exact .ok h
  | cons m ms ih =>
    obtain ⟨_ | key, d⟩ := m
    · exact .error _
    · have htail : ∀ s ∈ slots, some s.name ∈ ms.map Prod.fst → s.Keeps L ∨ s.Filled L :=
        fun s hs hkey => hkeeps s hs (List.mem_cons_of_mem _ hkey)
      rw [readMembers, readMembers]
      cases hfind : slots.find? (·.name == key) with
      | none =>
        by_cases hd : d.isWhole = true
        · simpa [hd] using ih htail h
        · simpa [hd] using Alike.error _
      | some s =>
        have hname : s.name = key := by simpa using List.find?_some hfind
        rcases hkeeps s (List.mem_of_find?_eq_some hfind) (by simp [hname]) with hs | hs
        · simp only [hs.filled_eq h]
          split
          · exact .error _
          · exact (hs.read_alike h d).bind fun _ _ hpq => ih htail hpq
        · simp only [hs p q h, if_true]
          exact .error _

theorem readItems_alike {ds : List Document}
    (hread : ∀ s ∈ slots, ∀ p q, L p q → ∀ d, Alike L (s.read d p) (s.read d q)) {p q : δ}
    (h : L p q) : Alike L (readItems slots ds p) (readItems slots ds q) := by
  induction ds generalizing slots p q with
  | nil =>
    cases slots <;> exact .ok h
  | cons d ds ih =>
    cases slots with
    | nil => exact .error _
    | cons s slots =>
      refine Alike.bind (hread s List.mem_cons_self p q h d) ?_
      intro p q hpq
      exact ih (fun s hs => hread s (List.mem_cons_of_mem _ hs)) hpq

theorem readItems_append {before after : List (Slot δ)} {front : List Document}
    (h : front.length = before.length) (back : List Document) (p : δ) :
    readItems (before ++ after) (front ++ back) p =
      (readItems before front p).bind (readItems after back) := by
  induction front generalizing before p with
  | nil =>
    obtain rfl := List.length_eq_zero_iff.mp h.symm
    rfl
  | cons d front ih =>
    cases before with
    | nil => cases h
    | cons s before =>
      have hlen : front.length = before.length := Nat.succ.inj h
      rw [List.cons_append, List.cons_append, readItems, readItems]
      cases s.read d p with
      | error e => rfl
      | ok q => exact ih hlen q

/-! ## Places -/

/-- A structure as a function of one of its members, which stands under its name in an object, or in
its position in an array. -/
inductive MemberPlace (slots : List (Slot δ)) (name : String) : (Document → Document) → Prop where
  | key (front back : List (Option String × Document)) :
      MemberPlace slots name fun d => .object (front ++ (some name, d) :: back)
  | position {front : List Document}
      (h : slots.findIdx? (·.name == name) = some front.length) (back : List Document) :
      MemberPlace slots name fun d => .array (front ++ d :: back)

/-- An array as a function of one of its items, which has a certain index. -/
inductive ItemPlace : ℕ → (Document → Document) → Prop where
  | item (front back : List Document) :
      ItemPlace front.length fun d => .array (front ++ d :: back)

/-- The first document lacks a member that the second has, and they are the same otherwise. In an
array the member comes last. -/
inductive WrittenOut (slots : List (Slot δ)) (name : String) (value : Document) :
    Document → Document → Prop where
  | key (front back : List (Option String × Document))
      (h : ∀ m ∈ front ++ back, m.1 ≠ some name) :
      WrittenOut slots name value (.object (front ++ back))
        (.object (front ++ (some name, value) :: back))
  | position {ds : List Document} (h : slots.findIdx? (·.name == name) = some ds.length) :
      WrittenOut slots name value (.array ds) (.array (ds ++ [value]))

/-- A member that has a default is written in another way: it is missing and the default is written
out, or what stands in its place is written in one of some other ways. -/
inductive MemberRewritten (slots : List (Slot δ)) (name : String) (default : Document)
    (Ways : Document → Document → Prop) : Document → Document → Prop where
  | missing {d e : Document} (h : WrittenOut slots name default d e) :
      MemberRewritten slots name default Ways d e
  | inPlace {C : Document → Document} (hC : MemberPlace slots name C) {d e : Document}
      (h : Ways d e) : MemberRewritten slots name default Ways (C d) (C e)

/-- One item of an array is written in another way. -/
inductive ItemRewritten (Ways : Document → Document → Prop) : Document → Document → Prop where
  | inPlace {i : ℕ} {C : Document → Document} (hC : ItemPlace i C) {d e : Document}
      (h : Ways d e) : ItemRewritten Ways (C d) (C e)

/-- A structure is never null, however its members are written. -/
theorem MemberRewritten.ne_null {default d e : Document} {Ways : Document → Document → Prop}
    (h : MemberRewritten slots name default Ways d e) : d ≠ .null ∧ e ≠ .null := by
  cases h with
  | missing h => cases h <;> simp
  | inPlace hC h => cases hC <;> simp

/-- Values that may be null, neither of which is. -/
theorem nullable_alike {α : Type} {R : α → α → Prop} {S : Option α → Option α → Prop}
    {read : Reader α} {d e : Document} (hne : d ≠ .null ∧ e ≠ .null) (h : Alike R (read d) (read e))
    (hsome : ∀ a b, R a b → S (some a) (some b)) :
    Alike S (Reader.nullable read d) (Reader.nullable read e) := by
  rw [Reader.nullable.eq_2 _ _ hne.1, Reader.nullable.eq_2 _ _ hne.2]
  exact h.map hsome

/-- A list of which one item is written in two ways. -/
theorem ItemPlace.alike {α : Type} {R : α → α → Prop} {S : List α → List α → Prop} {i : ℕ}
    {d e : Document} (hC : ItemPlace i C) {read : Reader α} (h : Alike R (read d) (read e))
    (hlist : ∀ before after a b, before.length = i → R a b →
      S (before ++ a :: after) (before ++ b :: after)) :
    Alike S (Reader.list read (C d)) (Reader.list read (C e)) := by
  obtain ⟨front, back⟩ := hC
  exact Alike.mapM front back h hlist

/-- A list of which one item is written in another way. -/
theorem ItemRewritten.alike {α : Type} {R : α → α → Prop} {S : List α → List α → Prop}
    {Ways : Document → Document → Prop} {d e : Document} (h : ItemRewritten Ways d e)
    (read : Reader α) (hways : ∀ d e, Ways d e → Alike R (read d) (read e))
    (hlist : ∀ before after a b, R a b → S (before ++ a :: after) (before ++ b :: after)) :
    Alike S (Reader.list read d) (Reader.list read e) := by
  cases h with
  | inPlace hC hway =>
    exact hC.alike (hways _ _ hway) fun before after a b _ => hlist before after a b

/-- The slots in front of a slot, and those behind it, by the position of its name. -/
theorem exists_split (hslot : slots.find? (·.name == name) = some slot) {i : ℕ}
    (hi : slots.findIdx? (·.name == name) = some i) :
    ∃ before after, slots = before ++ slot :: after ∧ before.length = i ∧
      (∀ s ∈ before, s.name ≠ name) ∧ slot.name = name := by
  obtain ⟨hname, before, after, rfl, hbefore⟩ := List.find?_eq_some_iff_append.mp hslot
  have hnone : before.findIdx? (·.name == name) = none := by
    rw [List.findIdx?_eq_none_iff]
    intro s hs
    simpa using hbefore s hs
  rw [List.findIdx?_append, hnone] at hi
  have hlength : before.length = i := by simpa [List.findIdx?_cons, hname] using hi
  exact ⟨before, after, rfl, hlength, fun s hs => by simpa using hbefore s hs, by simpa using hname⟩

section Read

variable {α : Type} {R : α → α → Prop} {empty : δ} {finish : δ → Except Refusal α}
  {d e : Document}

/-- A member that is written in two ways makes no difference, if it makes none in the drafts that is
looked at. -/
theorem MemberPlace.alike (hC : MemberPlace slots name C)
    (hslot : slots.find? (·.name == name) = some slot) (hnodup : (slots.map Slot.name).Nodup)
    (hkeeps : ∀ s ∈ slots, s.name ≠ name → s.Keeps L) (hself : slot.Keeps L ∨ slot.Filled L)
    (hread : ∀ p, Alike L (slot.read d p) (slot.read e p))
    (hfinish : ∀ p q, L p q → Alike R (finish p) (finish q)) :
    Alike R (Reader.ofSlots slots empty finish (C d))
      (Reader.ofSlots slots empty finish (C e)) := by
  cases hC with
  | key front back =>
    refine Alike.bind (R := L) ?_ hfinish
    rw [readMembers_append, readMembers_append]
    refine Alike.bind_self ?_ _
    intro p
    simp only [readMembers, hslot]
    split
    · exact .error _
    · refine (hread p).bind ?_
      intro p q hpq
      refine readMembers_alike ?_ hpq
      intro s hs _
      -- a second member of the name meets the same slot again
      by_cases hne : s.name = name
      · have hmem : slot ∈ slots := List.mem_of_find?_eq_some hslot
        have hname : slot.name = name := by simpa using List.find?_some hslot
        rw [List.inj_on_of_nodup_map hnodup hs hmem (hne.trans hname.symm)]
        exact hself
      · exact .inl (hkeeps s hs hne)
  | position h back =>
    obtain ⟨before, after, rfl, hlength, -, hname⟩ := exists_split hslot h
    refine Alike.bind (R := L) ?_ hfinish
    rw [readItems_append hlength.symm, readItems_append hlength.symm]
    refine Alike.bind_self ?_ _
    intro p
    refine Alike.bind (hread p) ?_
    intro p q hpq
    refine readItems_alike ?_ hpq
    intro s hs p q hpq d
    have hne : s.name ≠ name := by
      rw [List.map_append, List.map_cons, List.nodup_append, List.nodup_cons] at hnodup
      rintro rfl
      exact hnodup.2.1.1 (hname ▸ List.mem_map_of_mem hs)
    exact (hkeeps s (by simp [hs]) hne).read_alike hpq d

/-- A structure cannot be read if one of its members cannot, whatever else may be read in its
place. -/
theorem MemberPlace.eq_error (hC : MemberPlace slots name C)
    (hslot : slots.find? (·.name == name) = some slot) {cause : Refusal}
    (hread : ∀ p, slot.read e p = .error cause) {a : α}
    (h : Reader.ofSlots slots empty finish (C d) = .ok a) :
    Reader.ofSlots slots empty finish (C e) = .error cause := by
  cases hC with
  | key front back =>
    obtain ⟨p, hp, -⟩ := bind_eq_ok_iff.mp h
    rw [readMembers_append] at hp
    obtain ⟨q, hfront, hq⟩ := bind_eq_ok_iff.mp hp
    have hfilled : slot.filled q = false := by
      rw [Bool.eq_false_iff]
      intro hfilled
      simp [readMembers, hslot, hfilled] at hq
    show (readMembers slots _ empty).bind finish = _
    rw [readMembers_append, hfront]
    simp [Except.bind, readMembers, hslot, hfilled, hread]
  | position hi back =>
    obtain ⟨before, after, rfl, hlength, -, -⟩ := exists_split hslot hi
    obtain ⟨p, hp, -⟩ := bind_eq_ok_iff.mp h
    rw [readItems_append hlength.symm] at hp
    obtain ⟨q, hfront, -⟩ := bind_eq_ok_iff.mp hp
    show (readItems _ _ empty).bind finish = _
    rw [readItems_append hlength.symm, hfront]
    simp [Except.bind, readItems, hread]

/-- What is read of a structure is read of its members. -/
theorem MemberPlace.exists_read (hC : MemberPlace slots name C) {β : Type} {get : δ → Option β}
    {set : δ → β → δ} {read : Reader β}
    (hslot : slots.find? (·.name == name) = some (.option name get set read)) {a : α}
    (h : Reader.ofSlots slots empty finish (C d) = .ok a) : ∃ b, read d = .ok b := by
  cases hread : read d with
  | ok b => exact ⟨b, rfl⟩
  | error cause =>
    have herror := hC.eq_error hslot (Slot.option_error hread) h
    rw [h] at herror
    cases herror

/-- A list cannot be read if one of its items cannot, whatever else may be read in its place. -/
theorem ItemPlace.eq_error {read : Reader α} {i : ℕ} (hC : ItemPlace i C) {cause : Refusal}
    (hread : read e = .error cause) {as : List α} (h : Reader.list read (C d) = .ok as) :
    Reader.list read (C e) = .error cause := by
  obtain ⟨front, back⟩ := hC
  have hall : ∀ b ∈ front ++ d :: back, ∃ a, read b = .ok a := exists_mapM_eq_ok_iff.mp ⟨as, h⟩
  refine mapM_eq_error_iff.mpr ⟨front, e, back, rfl, ?_, hread⟩
  intro b hb
  exact hall b (List.mem_append_left _ hb)

theorem ItemPlace.exists_read {read : Reader α} {i : ℕ} (hC : ItemPlace i C) {as : List α}
    (h : Reader.list read (C d) = .ok as) : ∃ a, read d = .ok a := by
  obtain ⟨front, back⟩ := hC
  exact exists_mapM_eq_ok_iff.mp ⟨as, h⟩ d (by simp)

/-- A member that is written out makes no difference to one that is missing, if it makes none in the
drafts that is looked at. -/
theorem WrittenOut.alike {value : Document} (h : WrittenOut slots name value d e)
    (hslot : slots.find? (·.name == name) = some slot)
    (hkeeps : ∀ s ∈ slots, s.name ≠ name → s.Keeps L)
    (hopen : ∀ s ∈ slots, s.name ≠ name → s.Keeps fun p q => p = q ∧ slot.filled p = false)
    (hempty : slot.filled empty = false)
    (hread : ∀ p, slot.filled p = false → ∃ q, slot.read value p = .ok q ∧ L p q)
    (hfinish : ∀ p q, L p q → Alike R (finish p) (finish q)) :
    Alike R (Reader.ofSlots slots empty finish d) (Reader.ofSlots slots empty finish e) := by
  cases h with
  | key front back hmissing =>
    have hother : ∀ ms : List (Option String × Document), (∀ m ∈ ms, m.1 ≠ some name) →
        ∀ s : Slot δ, some s.name ∈ ms.map Prod.fst → s.name ≠ name := by
      intro ms hms s hs hname
      obtain ⟨m, hm, hkey⟩ := List.mem_map.mp hs
      exact hms m hm (by rw [hkey, hname])
    rw [List.forall_mem_append] at hmissing
    refine Alike.bind (R := L) ?_ hfinish
    rw [readMembers_append, readMembers_append]
    -- up to the member the drafts are the same, and its slot is open
    refine Alike.bind (readMembers_alike
      (fun s hs hkey => .inl (hopen s hs (hother front hmissing.1 s hkey))) ⟨rfl, hempty⟩) ?_
    rintro p _ ⟨rfl, hfilled⟩
    obtain ⟨q, hq, hpq⟩ := hread p hfilled
    have hwritten : readMembers slots ((some name, value) :: back) p =
        readMembers slots back q := by
      simp [readMembers, hslot, hfilled, hq, Except.bind]
    rw [hwritten]
    exact readMembers_alike
      (fun s hs hkey => .inl (hkeeps s hs (hother back hmissing.2 s hkey))) hpq
  | @position ds hi =>
    obtain ⟨before, after, rfl, hlength, hbefore, -⟩ := exists_split hslot hi
    refine Alike.bind (R := L) ?_ hfinish
    have hitems : readItems (before ++ slot :: after) ds empty =
        (readItems before ds empty).bind (readItems (slot :: after) []) := by
      rw [← readItems_append hlength.symm, List.append_nil]
    rw [hitems, readItems_append hlength.symm]
    refine Alike.bind (readItems_alike (L := fun p q => p = q ∧ slot.filled p = false) ?_
      ⟨rfl, hempty⟩) ?_
    · intro s hs p q hpq d
      exact (hopen s (List.mem_append_left _ hs) (hbefore s hs)).read_alike hpq d
    · rintro p _ ⟨rfl, hfilled⟩
      obtain ⟨q, hq, hpq⟩ := hread p hfilled
      have hwritten : readItems (slot :: after) [value] p = .ok q := by
        rw [readItems, hq]
        cases after <;> rfl
      rw [hwritten]
      exact .ok hpq

end Read

/-! ## What matters in a draft -/

/-- Slots of different names that fill their own places only, all of which are open in the
beginning, and a meaning of drafts such that what a draft means after reading a member depends on
what it meant before. -/
structure Respects {μ : Type} (slots : List (Slot δ)) (empty : δ) (meaning : δ → μ) : Prop where
  nodup : (slots.map Slot.name).Nodup
  filled_empty : ∀ s ∈ slots, s.filled empty = false
  filled_read : ∀ s ∈ slots, ∀ t ∈ slots, ∀ d p q, s.read d p = .ok q →
    t.filled q = (t.name == s.name || t.filled p)
  read_alike : ∀ s ∈ slots, ∀ d p q, meaning p = meaning q →
    Alike (fun p q => meaning p = meaning q) (s.read d p) (s.read d q)

/-- What a draft without a declared member says, and one that has the default of the member. -/
theorem Slot.option_default {α μ : Type} {get : δ → Option α} {set : δ → α → δ} {read : Reader α}
    {meaning : δ → μ} {default : Document} {a : α} (hread : read default = .ok a)
    (hset : ∀ p, get p = none → meaning p = meaning (set p a)) (p : δ)
    (hopen : (Slot.option name get set read).filled p = false) :
    ∃ q, (Slot.option name get set read).read default p = .ok q ∧ meaning p = meaning q := by
  refine ⟨set p a, ?_, hset p (by simpa [Slot.option] using hopen)⟩
  simp only [Slot.option, hread, Except.map]

namespace Respects

variable {μ : Type} {meaning : δ → μ} {empty : δ}

/-- Two drafts mean the same and have the same members, but perhaps for one that is left open. -/
def Agree (slots : List (Slot δ)) (meaning : δ → μ) (openName : Option String) (p q : δ) : Prop :=
  meaning p = meaning q ∧ ∀ s ∈ slots, some s.name ≠ openName → s.filled p = s.filled q

/-- Members that are read into drafts of one meaning alike make them agree. -/
theorem agree_of_alike (h : Respects slots empty meaning) {openName : Option String}
    (hs : slot ∈ slots) {d e : Document} {p q : δ} (hpq : Agree slots meaning openName p q)
    (halike : Alike (fun p q => meaning p = meaning q) (slot.read d p) (slot.read e q)) :
    Alike (Agree slots meaning openName) (slot.read d p) (slot.read e q) := by
  cases hd : slot.read d p with
  | error cause =>
    rw [hd] at halike
    generalize slot.read e q = y at halike
    cases halike
    exact .error _
  | ok p' =>
    rw [hd] at halike
    cases he : slot.read e q with
    | error cause =>
      rw [he] at halike
      cases halike
    | ok q' =>
      rw [he] at halike
      cases halike with
      | ok hmeaning =>
        refine .ok ⟨hmeaning, ?_⟩
        intro t ht hname
        rw [h.filled_read slot hs t ht d p p' hd, h.filled_read slot hs t ht e q q' he,
          hpq.2 t ht hname]

theorem keeps_agree (h : Respects slots empty meaning) {openName : Option String}
    (hs : slot ∈ slots) (hname : some slot.name ≠ openName) :
    slot.Keeps (Agree slots meaning openName) where
  filled_eq hpq := hpq.2 slot hs hname
  read_alike hpq d := h.agree_of_alike hs hpq (h.read_alike slot hs d _ _ hpq.1)

theorem keeps_open (h : Respects slots empty meaning) (hs : slot ∈ slots) {s : Slot δ}
    (hmem : s ∈ slots) (hname : s.name ≠ slot.name) :
    s.Keeps fun p q => p = q ∧ slot.filled p = false where
  filled_eq := by
    rintro p _ ⟨rfl, -⟩
    rfl
  read_alike := by
    rintro p _ ⟨rfl, hopen⟩ d
    cases hd : s.read d p with
    | error cause => exact .error _
    | ok q =>
      refine .ok ⟨rfl, ?_⟩
      rw [h.filled_read s hmem slot hs d p q hd, hopen]
      simpa using hname.symm

variable {α : Type} {R : α → α → Prop} {finish : δ → Except Refusal α} {d e : Document}

/-- A member that is written in two ways of one meaning. -/
theorem alike_of_memberPlace (h : Respects slots empty meaning) (hC : MemberPlace slots name C)
    (hslot : slots.find? (·.name == name) = some slot)
    (hread : ∀ p, Alike (fun p q => meaning p = meaning q) (slot.read d p) (slot.read e p))
    (hfinish : ∀ p q, meaning p = meaning q → Alike R (finish p) (finish q)) :
    Alike R (Reader.ofSlots slots empty finish (C d))
      (Reader.ofSlots slots empty finish (C e)) := by
  have hs : slot ∈ slots := List.mem_of_find?_eq_some hslot
  refine hC.alike (L := Agree slots meaning none) hslot h.nodup ?_ (.inl ?_) ?_ ?_
  · intro s hs _
    exact h.keeps_agree hs nofun
  · exact h.keeps_agree hs nofun
  · intro p
    exact h.agree_of_alike hs ⟨rfl, fun _ _ _ => rfl⟩ (hread p)
  · intro p q hpq
    exact hfinish p q hpq.1

/-- A member that is missing and one that is written with the same meaning. -/
theorem alike_of_writtenOut (h : Respects slots empty meaning) {value : Document}
    (hwritten : WrittenOut slots name value d e)
    (hslot : slots.find? (·.name == name) = some slot)
    (hread : ∀ p, slot.filled p = false → ∃ q, slot.read value p = .ok q ∧ meaning p = meaning q)
    (hfinish : ∀ p q, meaning p = meaning q → Alike R (finish p) (finish q)) :
    Alike R (Reader.ofSlots slots empty finish d) (Reader.ofSlots slots empty finish e) := by
  have hs : slot ∈ slots := List.mem_of_find?_eq_some hslot
  have hname : slot.name = name := by simpa using List.find?_some hslot
  refine hwritten.alike (L := Agree slots meaning (some name)) hslot ?_ ?_
    (h.filled_empty slot hs) ?_ ?_
  · intro s hs hne
    exact h.keeps_agree hs (by simpa using hne)
  · intro s hmem hne
    exact h.keeps_open hs hmem (hname ▸ hne)
  · intro p hopen
    obtain ⟨q, hq, hmeaning⟩ := hread p hopen
    refine ⟨q, hq, hmeaning, ?_⟩
    intro t ht hne
    have hother : t.name ≠ slot.name := by
      rw [hname]
      simpa using hne
    rw [h.filled_read slot hs t ht value p q hq, beq_eq_false_iff_ne.mpr hother, Bool.false_or]
  · intro p q hpq
    exact hfinish p q hpq.1

/-- A member that is written in another way of the same meaning. -/
theorem alike_of_memberRewritten (h : Respects slots empty meaning) {default : Document}
    {Ways : Document → Document → Prop} (hrewritten : MemberRewritten slots name default Ways d e)
    (hslot : slots.find? (·.name == name) = some slot)
    (hmissing : ∀ p, slot.filled p = false →
      ∃ q, slot.read default p = .ok q ∧ meaning p = meaning q)
    (hways : ∀ d e, Ways d e → ∀ p,
      Alike (fun p q => meaning p = meaning q) (slot.read d p) (slot.read e p))
    (hfinish : ∀ p q, meaning p = meaning q → Alike R (finish p) (finish q)) :
    Alike R (Reader.ofSlots slots empty finish d) (Reader.ofSlots slots empty finish e) := by
  cases hrewritten with
  | missing hwritten => exact h.alike_of_writtenOut hwritten hslot hmissing hfinish
  | inPlace hC hway => exact h.alike_of_memberPlace hC hslot (hways _ _ hway) hfinish

end Respects

end Json

end RecordQuery
