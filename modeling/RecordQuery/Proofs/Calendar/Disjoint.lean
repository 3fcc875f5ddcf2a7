import Mathlib.Data.List.Pairwise
import RecordQuery.Plan.Literal
import RecordQuery.Proofs.Calendar.Scanning
import RecordQuery.Proofs.Text.WhiteSpace

/-!
# The layouts of instants do not overlap

The layouts share the date at their front, and read it alike: where one of them asks for just so
many digits, the others take the same ones. Behind the date they part. A bare date ends there, a `T`
is neither a blank nor a digit, and an offset is what a time of day without one does not leave over.
So a text has at most one of the layouts, and the order in which they are tried does not matter.

Results:
* `readFront?_of_strict`: numbers of full width are read alike by the looser items.
* `pairwise_read?`: no text has two of the layouts.
* `coerce_of_perm`: an instant is read alike in whichever order the layouts are tried.
-/

namespace RecordQuery

namespace Layout

variable {item : Item} {layout : Layout} {r r' : Reading} {cs rest : List Char} {s : String}

/-! ## The front of a text -/

/-- Reads the items of a layout off the front of a text, and keeps what follows them. -/
def readFront? : Layout → Reading → List Char → Option (Reading × List Char)
  | [], r, cs => some (r, cs)
  | item :: layout, r, cs => (readItem? item r cs).bind fun (r, rest) => readFront? layout r rest

theorem readFront?_cons_eq_some_iff {x : Reading × List Char} :
    readFront? (item :: layout) r cs = some x ↔
      ∃ r' rest, readItem? item r cs = some (r', rest) ∧ readFront? layout r' rest = some x := by
  rw [readFront?, Option.bind_eq_some_iff, Prod.exists]

theorem readFrom?_append (front back : Layout) (r : Reading) (cs : List Char) :
    readFrom? (front ++ back) r cs =
      (readFront? front r cs).bind fun (r, rest) => readFrom? back r rest := by
  induction front generalizing r cs with
  | nil => rfl
  | cons item front ih =>
    rw [List.cons_append, readFrom?, readFront?]
    cases readItem? item r cs with
    | none => rfl
    | some x => exact ih x.1 x.2

theorem readFrom?_append_eq_some_iff {front back : Layout} :
    readFrom? (front ++ back) r cs = some r' ↔
      ∃ r₁ rest, readFront? front r cs = some (r₁, rest) ∧ readFrom? back r₁ rest = some r' := by
  rw [readFrom?_append, Option.bind_eq_some_iff, Prod.exists]

theorem readFrom?_cons_eq_some_iff : readFrom? (item :: layout) r cs = some r' ↔
    ∃ r₁ rest, readItem? item r cs = some (r₁, rest) ∧ readFrom? layout r₁ rest = some r' := by
  rw [readFrom?, Option.bind_eq_bind, Option.bind_eq_some_iff, Prod.exists]

theorem readFrom?_nil_eq_some_iff : readFrom? [] r cs = some r' ↔ cs = [] ∧ r = r' := by
  cases cs <;> simp [readFrom?]

theorem readItem?_oneOf_eq_some_iff {chars : List Char} :
    readItem? (.oneOf chars) r cs = some (r', rest) ↔ r = r' ∧ ∃ c ∈ chars, cs = c :: rest := by
  cases cs with
  | nil => simp [readItem?]
  | cons c cs =>
    rw [readItem?, Option.ite_none_right_eq_some, Option.some.injEq, Prod.mk.injEq]
    constructor
    · rintro ⟨hc, rfl, rfl⟩
      exact ⟨rfl, c, hc, rfl⟩
    · rintro ⟨rfl, _, hc, hcons⟩
      cases hcons
      exact ⟨hc, rfl, rfl⟩

/-! ## Numbers of full width -/

/-- The greatest number of digits of a number without a sign. -/
def Field.width : Field → Nat
  | year => 4
  | _ => 2

/-- The item that takes no fewer digits than the given one may take. -/
def Item.strict : Item → Item
  | loose field => exact field field.width
  | item => item

theorem readItem?_of_strict (h : readItem? item.strict r cs = some (r', rest)) :
    readItem? item r cs = some (r', rest) := by
  cases item with
  | loose field =>
    obtain ⟨⟨n, rest⟩, hn, heq⟩ := Option.map_eq_some_iff.mp h
    cases heq
    obtain ⟨ds, hlength, rfl, rfl⟩ := exactNumber?_eq_some_iff.mp hn
    have hnil : ds ≠ [] := by
      rintro rfl
      cases field <;> cases hlength
    have hnumber : number? field.width (Digits.text ds ++ rest) = some (Digits.value ds, rest) :=
      number?_eq_some_iff.mpr ⟨ds, hnil, rfl, ⟨Nat.le_of_eq hlength, .inl hlength⟩, rfl⟩
    cases field with
    | year =>
      obtain ⟨d, ds, rfl⟩ := List.exists_cons_of_ne_nil hnil
      have hyear := year?_of_digit d (Digits.text ds ++ rest)
      rw [readItem?, trimStart_text hnil]
      exact congrArg (Option.map _) (hyear.trans (congrArg (Option.map _) hnumber))
    | _ =>
      show (number? 2 (Text.trimStart _)).map _ = _
      rw [trimStart_text hnil]
      exact congrArg (Option.map _) hnumber
  | _ => exact h

/-- What is read with numbers of full width is read by the looser items. -/
theorem readFront?_of_strict (h : readFront? (layout.map Item.strict) r cs = some (r', rest)) :
    readFront? layout r cs = some (r', rest) := by
  induction layout generalizing r cs with
  | nil => exact h
  | cons item layout ih =>
    obtain ⟨r₁, rest₁, hitem, hlayout⟩ := readFront?_cons_eq_some_iff.mp h
    exact readFront?_cons_eq_some_iff.mpr ⟨r₁, rest₁, readItem?_of_strict hitem, ih hlayout⟩

theorem zonedTime_eq : zonedTime =
    date.map Item.strict ++
      .oneOf ['T', 't', ' '] :: (timeOfDay.map Item.strict ++ [.offset]) := rfl

/-! ## Where the layouts part -/

/-- A time of day starts with a digit, if not with blanks before it. -/
theorem exists_trimStart_of_timeOfDay {x : Reading × List Char}
    (h : readFront? timeOfDay r cs = some x) :
    ∃ (d : Digit) (more : List Char), Text.trimStart cs = d.toChar :: more := by
  obtain ⟨r', rest, hhour, -⟩ := readFront?_cons_eq_some_iff.mp h
  obtain ⟨⟨n, rest⟩, hn, -⟩ := Option.map_eq_some_iff.mp hhour
  obtain ⟨ds, hnil, htext, -⟩ := number?_eq_some_iff.mp hn
  obtain ⟨d, ds, rfl⟩ := List.exists_cons_of_ne_nil hnil
  exact ⟨d, Digits.text ds ++ rest, htext⟩

theorem trimStart_of_strict_timeOfDay {x : Reading × List Char}
    (h : readFront? (timeOfDay.map Item.strict) r cs = some x) : Text.trimStart cs = cs := by
  obtain ⟨r', rest, hhour, -⟩ := readFront?_cons_eq_some_iff.mp h
  obtain ⟨⟨n, rest⟩, hn, -⟩ := Option.map_eq_some_iff.mp hhour
  obtain ⟨ds, hlength, rfl, -⟩ := exactNumber?_eq_some_iff.mp hn
  refine trimStart_text ?_ rest
  rintro rfl
  cases hlength

/-- Behind the date, a text with an offset goes on with a mark, a time of day and something more. -/
theorem front_of_zonedTime (h : zonedTime.read? s ≠ none) :
    ∃ r c rest, readFront? date {} s.toList = some (r, c :: rest) ∧ c ∈ ['T', 't', ' '] ∧
      Text.trimStart rest = rest ∧
      ∃ r' c' rest', readFront? timeOfDay r rest = some (r', c' :: rest') := by
  obtain ⟨w, hw⟩ := Option.ne_none_iff_exists'.mp h
  rw [read?, zonedTime_eq, readFrom?_append_eq_some_iff] at hw
  obtain ⟨r, behind, hdate, hbehind⟩ := hw
  obtain ⟨_, rest, hmark, hrest⟩ := readFrom?_cons_eq_some_iff.mp hbehind
  obtain ⟨rfl, c, hc, rfl⟩ := readItem?_oneOf_eq_some_iff.mp hmark
  obtain ⟨r', zone, htime, hzone⟩ := readFrom?_append_eq_some_iff.mp hrest
  obtain ⟨_, _, hoffset, -⟩ := readFrom?_cons_eq_some_iff.mp hzone
  refine ⟨r, c, rest, readFront?_of_strict hdate, hc, trimStart_of_strict_timeOfDay htime, ?_⟩
  cases zone with
  | nil => cases hoffset
  | cons c' rest' => exact ⟨r', c', rest', readFront?_of_strict htime⟩

theorem readFrom?_eq_some_iff_readFront? :
    readFrom? layout r cs = some r' ↔ readFront? layout r cs = some (r', []) := by
  rw [← List.append_nil layout, readFrom?_append_eq_some_iff, List.append_nil]
  constructor
  · rintro ⟨r₁, rest, hfront, hend⟩
    obtain ⟨rfl, rfl⟩ := readFrom?_nil_eq_some_iff.mp hend
    exact hfront
  · intro hfront
    exact ⟨r', [], hfront, rfl⟩

/-- Behind the date, a text without an offset goes on with a `T` and a time of day. -/
theorem front_of_localTime (h : localTime.read? s ≠ none) :
    ∃ r rest, readFront? date {} s.toList = some (r, 'T' :: rest) ∧
      ∃ r', readFront? timeOfDay r rest = some (r', []) := by
  obtain ⟨w, hw⟩ := Option.ne_none_iff_exists'.mp h
  rw [read?, localTime, readFrom?_append_eq_some_iff] at hw
  obtain ⟨r, behind, hdate, hbehind⟩ := hw
  obtain ⟨_, rest, hmark, htime⟩ := readFrom?_cons_eq_some_iff.mp hbehind
  obtain ⟨rfl, c, hc, rfl⟩ := readItem?_oneOf_eq_some_iff.mp hmark
  rw [List.mem_singleton.mp hc] at hdate
  exact ⟨r, rest, hdate, w, readFrom?_eq_some_iff_readFront?.mp htime⟩

/-- Behind the date, a text without an offset goes on with blanks and a time of day. -/
theorem front_of_spacedTime (h : spacedTime.read? s ≠ none) :
    ∃ r gap, readFront? date {} s.toList = some (r, gap) ∧
      ∃ r', readFront? timeOfDay r (Text.trimStart gap) = some (r', []) := by
  obtain ⟨w, hw⟩ := Option.ne_none_iff_exists'.mp h
  rw [read?, spacedTime, readFrom?_append_eq_some_iff] at hw
  obtain ⟨r, gap, hdate, hbehind⟩ := hw
  obtain ⟨_, rest, hgap, htime⟩ := readFrom?_cons_eq_some_iff.mp hbehind
  cases hgap
  exact ⟨r, gap, hdate, w, readFrom?_eq_some_iff_readFront?.mp htime⟩

/-- A bare date ends behind the date. -/
theorem front_of_date (h : date.read? s ≠ none) :
    ∃ r, readFront? date {} s.toList = some (r, []) := by
  obtain ⟨w, hw⟩ := Option.ne_none_iff_exists'.mp h
  exact ⟨w, readFrom?_eq_some_iff_readFront?.mp hw⟩

/-! ## No two layouts -/

/-- What is neither a blank nor a digit starts no time of day, after blanks or without them. -/
theorem not_timeOfDay_mark {c : Char} (hblank : Text.isBlank c = false)
    (hdigit : Digit.ofChar? c = none) (rest : List Char) (x : Reading × List Char) :
    readFront? timeOfDay r (Text.trimStart (c :: rest)) ≠ some x := by
  intro h
  have htrim : Text.trimStart (c :: rest) = c :: rest := by
    refine Text.trimStart_of_not_startsBlank ?_
    rw [Text.startsBlank_cons_iff, hblank]
    decide
  rw [htrim] at h
  obtain ⟨d, more, hmore⟩ := exists_trimStart_of_timeOfDay h
  cases htrim.symm.trans hmore
  rw [Digit.ofChar?_toChar] at hdigit
  cases hdigit

theorem localTime_of_zonedTime (h : zonedTime.read? s ≠ none) : localTime.read? s = none := by
  by_contra hlocal
  obtain ⟨r, c, rest, hdate, -, -, r', c', rest', htime⟩ := front_of_zonedTime h
  obtain ⟨_, _, hdate', _, htime'⟩ := front_of_localTime hlocal
  cases hdate.symm.trans hdate'
  cases htime.symm.trans htime'

theorem spacedTime_of_zonedTime (h : zonedTime.read? s ≠ none) : spacedTime.read? s = none := by
  by_contra hspaced
  obtain ⟨r, c, rest, hdate, hc, hrest, r', c', rest', htime⟩ := front_of_zonedTime h
  obtain ⟨_, gap, hdate', _, htime'⟩ := front_of_spacedTime hspaced
  cases hdate.symm.trans hdate'
  -- A blank may stand for the mark in both layouts, and then the offset is left over.
  have hspace : Text.trimStart (' ' :: rest) = rest := hrest
  simp only [List.mem_cons, List.not_mem_nil, or_false] at hc
  rcases hc with rfl | rfl | rfl
  · exact not_timeOfDay_mark (by decide) (by decide) rest _ htime'
  · exact not_timeOfDay_mark (by decide) (by decide) rest _ htime'
  · rw [hspace] at htime'
    cases htime.symm.trans htime'

theorem date_of_zonedTime (h : zonedTime.read? s ≠ none) : date.read? s = none := by
  by_contra hbare
  obtain ⟨r, c, rest, hdate, -⟩ := front_of_zonedTime h
  obtain ⟨_, hdate'⟩ := front_of_date hbare
  cases hdate.symm.trans hdate'

theorem spacedTime_of_localTime (h : localTime.read? s ≠ none) : spacedTime.read? s = none := by
  by_contra hspaced
  obtain ⟨r, rest, hdate, -⟩ := front_of_localTime h
  obtain ⟨_, gap, hdate', _, htime'⟩ := front_of_spacedTime hspaced
  cases hdate.symm.trans hdate'
  exact not_timeOfDay_mark (by decide) (by decide) rest _ htime'

theorem date_of_localTime (h : localTime.read? s ≠ none) : date.read? s = none := by
  by_contra hbare
  obtain ⟨r, rest, hdate, -⟩ := front_of_localTime h
  obtain ⟨_, hdate'⟩ := front_of_date hbare
  cases hdate.symm.trans hdate'

theorem date_of_spacedTime (h : spacedTime.read? s ≠ none) : date.read? s = none := by
  by_contra hbare
  obtain ⟨r, gap, hdate, r', htime⟩ := front_of_spacedTime h
  obtain ⟨_, hdate'⟩ := front_of_date hbare
  cases hdate.symm.trans hdate'
  cases htime

/-- No text has two of the layouts of instants. -/
theorem pairwise_read? (s : String) :
    instants.Pairwise fun a b => a.read? s = none ∨ b.read? s = none := by
  simp only [instants, List.pairwise_cons, List.mem_cons, List.not_mem_nil, or_false,
    forall_eq_or_imp, forall_eq]
  simp only [or_iff_not_imp_left]
  exact ⟨⟨localTime_of_zonedTime, spacedTime_of_zonedTime, date_of_zonedTime⟩,
    ⟨spacedTime_of_localTime, date_of_localTime⟩, date_of_spacedTime, nofun, .nil⟩

theorem eq_of_read? {a b : Layout} (ha : a ∈ instants) (hb : b ∈ instants)
    (hreada : a.read? s ≠ none) (hreadb : b.read? s ≠ none) : a = b := by
  by_contra hne
  have : Std.Symm fun a b : Layout => a.read? s = none ∨ b.read? s = none := ⟨fun _ _ h => h.symm⟩
  rcases (pairwise_read? s).forall ha hb hne with hnone | hnone
  · exact hreada hnone
  · exact hreadb hnone

theorem instant?_eq_none_of_read? {a : Layout} (h : a.read? s = none) : a.instant? s = none := by
  rw [instant?, h]
  rfl

theorem read?_ne_none_of_instant? {a : Layout} {t : Instant} (h : a.instant? s = some t) :
    a.read? s ≠ none := by
  intro hnone
  rw [instant?_eq_none_of_read? hnone] at h
  cases h

end Layout

/-! ## The order of the layouts -/

/-- Where at most one element gives a result, the order in which they are tried does not matter. -/
theorem findSome?_eq_of_perm {α β : Type} {f : α → Option β} {as bs : List α} (h : as.Perm bs)
    (hf : as.Pairwise fun a b => f a = none ∨ f b = none) : as.findSome? f = bs.findSome? f := by
  induction h with
  | nil => rfl
  | cons a _ ih => rw [List.findSome?_cons, List.findSome?_cons, ih hf.of_cons]
  | swap a b cs =>
    have hab : f b = none ∨ f a = none := List.rel_of_pairwise_cons hf List.mem_cons_self
    simp only [List.findSome?_cons]
    rcases hab with hb | ha
    · rw [hb]
    · rw [ha]
  | trans hab _ ih ih' =>
    exact (ih hf).trans (ih' (hf.perm hab fun h => h.symm))

/-- A text is an instant exactly if it is one in some layout. -/
theorem Instant.ofText?_eq_some_iff {s : String} {t : Instant} :
    ofText? s = some t ↔ ∃ layout ∈ Layout.instants, layout.instant? s = some t := by
  constructor
  · exact List.exists_of_findSome?_eq_some
  · rintro ⟨a, ha, hinstant⟩
    cases hfound : ofText? s with
    | none =>
      rw [List.findSome?_eq_none_iff.mp hfound a ha] at hinstant
      cases hinstant
    | some u =>
      obtain ⟨b, hb, hu⟩ := List.exists_of_findSome?_eq_some hfound
      have hab : a = b := Layout.eq_of_read? ha hb (Layout.read?_ne_none_of_instant? hinstant)
        (Layout.read?_ne_none_of_instant? hu)
      rw [← hu, ← hab, hinstant]

/-- A text is an instant in at most one of the layouts, so a literal is read alike in whichever
order they are tried. -/
theorem ScalarType.coerce_of_perm {order : List Layout} (h : order.Perm Layout.instants)
    (s : String) :
    (∀ a ∈ Layout.instants, ∀ b ∈ Layout.instants,
      (a.instant? s).isSome → (b.instant? s).isSome → a = b) ∧
    instant.coerce s =
      match order.findSome? (·.instant? s) with
      | some t => .ok (.instant t)
      | none => .error (.value "datetime" s) := by
  have hinstant : Layout.instants.Pairwise fun a b => a.instant? s = none ∨ b.instant? s = none :=
    (Layout.pairwise_read? s).imp fun hab =>
      hab.imp Layout.instant?_eq_none_of_read? Layout.instant?_eq_none_of_read?
  constructor
  · intro a ha b hb hsomea hsomeb
    refine Layout.eq_of_read? (s := s) ha hb (fun hnone => ?_) (fun hnone => ?_)
    · rw [Layout.instant?_eq_none_of_read? hnone] at hsomea
      cases hsomea
    · rw [Layout.instant?_eq_none_of_read? hnone] at hsomeb
      cases hsomeb
  · have horder : order.findSome? (·.instant? s) = Instant.ofText? s :=
      (findSome?_eq_of_perm h.symm hinstant).symm
    rw [horder, coerce, ofLiteral?]
    cases Instant.ofText? s <;> rfl

theorem ScalarType.coerce_spacedTime :
    [Layout.date, Layout.spacedTime, Layout.localTime, Layout.zonedTime].Perm Layout.instants ∧
      ∃ t : Instant, t.second = 3661 ∧ t.nano = 500000000 ∧
        instant.coerce "2024-2-29 \t1:01:1.5" = .ok (.instant t) := by
  have hperm : [Layout.date, Layout.spacedTime, Layout.localTime, Layout.zonedTime].Perm
      Layout.instants := List.reverse_perm Layout.instants
  let t : Instant :=
    ⟨⟨2024, 2, 29, by decide, by decide, by decide, by decide⟩, 3661, 500000000, by decide,
      by decide, by decide⟩
  have hfound : [Layout.date, Layout.spacedTime, Layout.localTime, Layout.zonedTime].findSome?
      (·.instant? "2024-2-29 \t1:01:1.5") = some t := by decide +kernel
  refine ⟨hperm, t, rfl, rfl, ?_⟩
  rw [(coerce_of_perm hperm "2024-2-29 \t1:01:1.5").2, hfound]

end RecordQuery
