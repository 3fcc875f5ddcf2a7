import RecordQuery.Proofs.Calendar.Disjoint

/-!
# Timestamps as they are written

What a text spells, said without reading it: the blanks, signs, digits and marks that each item of
a layout stands for, and the parts of a date and a time of day that they spell, with all digits of
the fraction. A reading keeps everything of these parts but the digits that nanoseconds have no room
for.

Results:
* `readItem?_eq_some_iff`: an item is read exactly where a writing of it stands.
* `readFrom?_eq_some_iff`, `read?_eq_some_iff`: a text has a layout exactly if it is a writing of
  it.
-/

namespace RecordQuery

/-! ## Grammar -/

/-- What is written of a date and a time of day: the numbers, the digits of the fraction, and the
offset from Coordinated Universal Time in minutes. -/
structure Layout.Written where
  year : Int := 0
  month : Nat := 0
  day : Nat := 0
  hour : Nat := 0
  minute : Nat := 0
  second : Nat := 0
  fraction : List Digit := []
  offset : Int := 0

namespace Layout

namespace Written

/-- What is kept of a writing: the fraction in nanoseconds. -/
def reading (w : Written) : Reading :=
  ⟨w.year, w.month, w.day, w.hour, w.minute, w.second, nanos w.fraction, w.offset⟩

/-- Sets a field to a number without a sign. -/
def setNat (w : Written) (field : Field) (n : Nat) : Written :=
  match field with
  | .year => { w with year := n }
  | .month => { w with month := n }
  | .day => { w with day := n }
  | .hour => { w with hour := n }
  | .minute => { w with minute := n }
  | .second => { w with second := n }

theorem reading_setNat (w : Written) (field : Field) (n : Nat) :
    (w.setNat field n).reading = w.reading.setNat field n := by
  cases field <;> rfl

theorem reading_whole (w : Written) :
    { w with fraction := [] }.reading = { w.reading with nano := 0 } := by
  unfold reading
  rw [show nanos [] = 0 from Nat.zero_mul _]

end Written

/-- The character of a sign. -/
def signChar (negative : Bool) : Char := if negative then '-' else '+'

/-- What an item stands for: `item.Spells w cs w' rest` says that the text `cs` starts with a
writing of the item and goes on with `rest`, and that `w'` is what is written if `w` was before.
Numbers have as many digits as they may have, so the text determines where they end. -/
inductive Item.Spells : Item → Written → List Char → Written → List Char → Prop where
  /-- Blanks, and a number of at most so many digits. -/
  | loose {w : Written} {field : Field} {blanks rest : List Char} {ds : List Digit}
      (hblanks : ∀ c ∈ blanks, Text.isBlank c = true) (hds : ds ≠ [])
      (hrun : Digits.Run field.width ds rest) :
      Spells (.loose field) w (blanks ++ (Digits.text ds ++ rest))
        (w.setNat field (Digits.value ds)) rest
  /-- Blanks, a sign and a year of any number of digits. -/
  | signed {w : Written} {negative : Bool} {blanks rest : List Char} {ds : List Digit}
      (hblanks : ∀ c ∈ blanks, Text.isBlank c = true) (hds : ds ≠ []) (hrest : Digits.Ends rest) :
      Spells (.loose .year) w
        (blanks ++ signChar negative :: (Digits.text ds ++ rest))
        { w with year := signed negative (Digits.value ds) } rest
  /-- A number of just so many digits. -/
  | exact {w : Written} {field : Field} {width : Nat} {rest : List Char} {ds : List Digit}
      (hlength : ds.length = width) :
      Spells (.exact field width) w (Digits.text ds ++ rest) (w.setNat field (Digits.value ds)) rest
  /-- One of the characters. -/
  | oneOf {w : Written} {chars rest : List Char} {c : Char} (hc : c ∈ chars) :
      Spells (.oneOf chars) w (c :: rest) w rest
  /-- All blanks that there are. -/
  | blanks {w : Written} {blanks rest : List Char}
      (hblanks : ∀ c ∈ blanks, Text.isBlank c = true) (hrest : Text.trimStart rest = rest) :
      Spells .blanks w (blanks ++ rest) w rest
  /-- No fraction. -/
  | whole {w : Written} {rest : List Char} (hrest : rest.head? ≠ some '.') :
      Spells .fraction w rest { w with fraction := [] } rest
  /-- A point and all digits that there are. -/
  | fraction {w : Written} {rest : List Char} {ds : List Digit} (hds : ds ≠ [])
      (hrest : Digits.Ends rest) :
      Spells .fraction w ('.' :: (Digits.text ds ++ rest)) { w with fraction := ds } rest
  /-- No offset. -/
  | utc {w : Written} {rest : List Char} {c : Char} (hc : c = 'Z' ∨ c = 'z') :
      Spells .offset w (c :: rest) { w with offset := 0 } rest
  /-- A sign, and an offset in hours and minutes. -/
  | offset {w : Written} {rest : List Char} {c : Char} {hours minutes : List Digit}
      (hc : c = '+' ∨ c = '-' ∨ c = '\u2212') (hhours : hours.length = 2)
      (hminutes : minutes.length = 2) (hhour : Digits.value hours < 24)
      (hminute : Digits.value minutes < 60) :
      Spells .offset w (c :: (Digits.text hours ++ ':' :: (Digits.text minutes ++ rest)))
        { w with offset := signed (c ≠ '+') (Digits.value hours * 60 + Digits.value minutes) } rest

/-- What a layout stands for: one item after the other, up to the end of the text. -/
inductive Spells : Layout → Written → List Char → Written → Prop where
  | nil {w : Written} : Spells [] w [] w
  | cons {item : Item} {layout : Layout} {w w₁ w' : Written} {cs rest : List Char}
      (hitem : item.Spells w cs w₁ rest) (hlayout : Spells layout w₁ rest w') :
      Spells (item :: layout) w cs w'

variable {item : Item} {layout : Layout} {w w' : Written} {r r' : Reading} {cs rest : List Char}

/-! ## What is read is what is spelled -/

/-- After a sign, all digits that there are. -/
theorem number?_length_eq_some_iff {n : Nat} : number? cs.length cs = some (n, rest) ↔
    ∃ ds, ds ≠ [] ∧ Digits.Ends rest ∧ cs = Digits.text ds ++ rest ∧ n = Digits.value ds := by
  rw [number?_eq_some_iff]
  constructor
  · rintro ⟨ds, hnil, rfl, ⟨-, hlongest⟩, rfl⟩
    refine ⟨ds, hnil, hlongest.elim (fun hlength => ?_) id, rfl, rfl⟩
    have hrest : rest = [] := by
      rw [List.length_append, Digits.text, List.length_map] at hlength
      exact List.length_eq_zero_iff.mp (by omega)
    rw [hrest]
    exact Digits.ends_nil
  · rintro ⟨ds, hnil, hends, rfl, rfl⟩
    refine ⟨ds, hnil, rfl, ⟨?_, .inr hends⟩, rfl⟩
    rw [List.length_append, Digits.text, List.length_map]
    omega

theorem year?_sign (negative : Bool) (cs : List Char) :
    year? (signChar negative :: cs) =
      (number? cs.length cs).map fun (n, rest) => (signed negative n, rest) := by
  cases negative <;> rfl

theorem number?_sign (negative : Bool) (cs : List Char) :
    number? 4 (signChar negative :: cs) = none := by
  cases negative <;> rfl

theorem year?_of_no_sign (h : ∀ negative more, cs ≠ signChar negative :: more) :
    year? cs = (number? 4 cs).map fun (n, rest) => ((n : Int), rest) := by
  unfold year?
  split
  · exact absurd rfl (h true _)
  · exact absurd rfl (h false _)
  · rfl

theorem year?_eq_some_iff {y : Int} : year? cs = some (y, rest) ↔
    (∃ n : Nat, number? 4 cs = some (n, rest) ∧ y = n) ∨
    ∃ negative ds, ds ≠ [] ∧ Digits.Ends rest ∧
      cs = signChar negative :: (Digits.text ds ++ rest) ∧
      y = signed negative (Digits.value ds) := by
  by_cases hsign : ∃ negative more, cs = signChar negative :: more
  · obtain ⟨negative, more, rfl⟩ := hsign
    rw [year?_sign, number?_sign, Option.map_eq_some_iff]
    constructor
    · rintro ⟨⟨n, rest⟩, hn, heq⟩
      cases heq
      obtain ⟨ds, hnil, hends, rfl, rfl⟩ := number?_length_eq_some_iff.mp hn
      exact .inr ⟨negative, ds, hnil, hends, rfl, rfl⟩
    · rintro (⟨n, hn, -⟩ | ⟨negative', ds, hnil, hends, hcs, rfl⟩)
      · cases hn
      · obtain ⟨hchar, rfl⟩ := List.cons.inj hcs
        have hnegative : negative = negative' := by
          revert hchar
          cases negative <;> cases negative' <;> decide
        rw [← hnegative]
        exact ⟨_, number?_length_eq_some_iff.mpr ⟨ds, hnil, hends, rfl, rfl⟩, rfl⟩
  · rw [year?_of_no_sign fun negative more hcs => hsign ⟨negative, more, hcs⟩,
      Option.map_eq_some_iff]
    constructor
    · rintro ⟨⟨n, rest⟩, hn, heq⟩
      cases heq
      exact .inl ⟨n, hn, rfl⟩
    · rintro (⟨n, hn, rfl⟩ | ⟨negative, ds, -, -, hcs, -⟩)
      · exact ⟨_, hn, rfl⟩
      · exact absurd ⟨negative, _, hcs⟩ hsign

/-- A number after blanks, of which a year may have a sign. -/
theorem readItem?_loose_eq_some_iff {field : Field} :
    readItem? (.loose field) r cs = some (r', rest) ↔
      (∃ n, number? field.width (Text.trimStart cs) = some (n, rest) ∧ r' = r.setNat field n) ∨
      (field = .year ∧ ∃ negative ds, ds ≠ [] ∧ Digits.Ends rest ∧
        Text.trimStart cs = signChar negative :: (Digits.text ds ++ rest) ∧
        r' = { r with year := signed negative (Digits.value ds) }) := by
  cases field with
  | year =>
    show (year? _).map _ = _ ↔ _
    rw [Option.map_eq_some_iff]
    constructor
    · rintro ⟨⟨y, rest⟩, hy, heq⟩
      cases heq
      rcases year?_eq_some_iff.mp hy with ⟨n, hn, rfl⟩ | ⟨negative, ds, hnil, hends, hcs, rfl⟩
      · exact .inl ⟨n, hn, rfl⟩
      · exact .inr ⟨rfl, negative, ds, hnil, hends, hcs, rfl⟩
    · rintro (⟨n, hn, rfl⟩ | ⟨-, negative, ds, hnil, hends, hcs, rfl⟩)
      · exact ⟨(n, rest), year?_eq_some_iff.mpr (.inl ⟨n, hn, rfl⟩), rfl⟩
      · exact ⟨(_, rest), year?_eq_some_iff.mpr (.inr ⟨negative, ds, hnil, hends, hcs, rfl⟩), rfl⟩
  | _ =>
    show (number? 2 _).map _ = _ ↔ _
    rw [Option.map_eq_some_iff]
    constructor
    · rintro ⟨⟨n, rest⟩, hn, heq⟩
      cases heq
      exact .inl ⟨n, hn, rfl⟩
    · rintro (⟨n, hn, rfl⟩ | ⟨hyear, -⟩)
      · exact ⟨(n, rest), hn, rfl⟩
      · cases hyear

theorem fraction?_eq_some_iff {n : Nat} : fraction? cs = some (n, rest) ↔
    (n = 0 ∧ cs = rest ∧ rest.head? ≠ some '.') ∨
    ∃ ds, ds ≠ [] ∧ Digits.Ends rest ∧ cs = '.' :: (Digits.text ds ++ rest) ∧ n = nanos ds := by
  unfold fraction?
  split
  · next cs =>
    constructor
    · intro h
      split at h
      · cases h
      · next d ds rest' hscan =>
        cases h
        obtain ⟨rfl, hends⟩ := Digits.scan_eq_iff.mp hscan
        exact .inr ⟨d :: ds, List.cons_ne_nil d ds, hends, rfl, rfl⟩
    · rintro (⟨-, rfl, hhead⟩ | ⟨ds, hnil, hends, hcs, rfl⟩)
      · exact absurd rfl hhead
      · obtain ⟨d, ds, rfl⟩ := List.exists_cons_of_ne_nil hnil
        rw [Digits.scan_eq_iff.mpr ⟨(List.cons.inj hcs).2, hends⟩]
  · next hpoint =>
    constructor
    · intro h
      cases h
      refine .inl ⟨rfl, rfl, fun hhead => ?_⟩
      obtain ⟨more, hcs⟩ := List.head?_eq_some_iff.mp hhead
      exact hpoint more hcs
    · rintro (⟨rfl, rfl, -⟩ | ⟨ds, -, -, rfl, -⟩)
      · rfl
      · exact absurd rfl (hpoint _)

theorem offsetMinutes?_eq_some_iff {n : Nat} : offsetMinutes? cs = some (n, rest) ↔
    ∃ hours minutes, hours.length = 2 ∧ minutes.length = 2 ∧ Digits.value hours < 24 ∧
      Digits.value minutes < 60 ∧ cs = Digits.text hours ++ ':' :: (Digits.text minutes ++ rest) ∧
      n = Digits.value hours * 60 + Digits.value minutes := by
  unfold offsetMinutes?
  simp only [Option.bind_eq_bind, Option.bind_eq_some_iff, Prod.exists]
  constructor
  · rintro ⟨hour, behind, hhour, h⟩
    obtain ⟨hours, hlength, rfl, rfl⟩ := exactNumber?_eq_some_iff.mp hhour
    split at h
    · obtain ⟨⟨minute, rest'⟩, hminute, h⟩ := Option.bind_eq_some_iff.mp h
      obtain ⟨minutes, hlength', rfl, rfl⟩ := exactNumber?_eq_some_iff.mp hminute
      obtain ⟨⟨hlt, hlt'⟩, hsome⟩ := Option.ite_none_right_eq_some.mp h
      cases hsome
      exact ⟨hours, minutes, hlength, hlength', hlt, hlt', rfl, rfl⟩
    · cases h
  · rintro ⟨hours, minutes, hlength, hlength', hlt, hlt', rfl, rfl⟩
    refine ⟨_, _, exactNumber?_eq_some_iff.mpr ⟨hours, hlength, rfl, rfl⟩, ?_⟩
    refine Option.bind_eq_some_iff.mpr
      ⟨_, exactNumber?_eq_some_iff.mpr ⟨minutes, hlength', rfl, rfl⟩, ?_⟩
    exact if_pos ⟨hlt, hlt'⟩

theorem offset?_utc {c : Char} (hc : c = 'Z' ∨ c = 'z') (cs : List Char) :
    offset? (c :: cs) = some (0, cs) :=
  if_pos hc

theorem offset?_sign {c : Char} (hc : c = '+' ∨ c = '-' ∨ c = '\u2212') (cs : List Char) :
    offset? (c :: cs) =
      (offsetMinutes? cs).map fun (n, rest) => (signed (c ≠ '+') n, rest) := by
  rcases hc with rfl | rfl | rfl <;> rfl

theorem offset?_eq_some_iff {offset : Int} : offset? cs = some (offset, rest) ↔
    (offset = 0 ∧ ∃ c, (c = 'Z' ∨ c = 'z') ∧ cs = c :: rest) ∨
    ∃ c more n, (c = '+' ∨ c = '-' ∨ c = '\u2212') ∧ cs = c :: more ∧
      offsetMinutes? more = some (n, rest) ∧ offset = signed (c ≠ '+') n := by
  constructor
  · intro h
    cases cs with
    | nil => cases h
    | cons c cs =>
      by_cases hutc : c = 'Z' ∨ c = 'z'
      · rw [offset?_utc hutc] at h
        cases h
        exact .inl ⟨rfl, c, hutc, rfl⟩
      · by_cases hsign : c = '+' ∨ c = '-' ∨ c = '\u2212'
        · rw [offset?_sign hsign, Option.map_eq_some_iff] at h
          obtain ⟨⟨n, rest⟩, hn, heq⟩ := h
          cases heq
          exact .inr ⟨c, cs, n, hsign, rfl, hn, rfl⟩
        · simp [offset?, hutc, not_or.mp hsign] at h
  · rintro (⟨rfl, c, hc, rfl⟩ | ⟨c, more, n, hc, rfl, hn, rfl⟩)
    · exact offset?_utc hc rest
    · rw [offset?_sign hc, hn]
      rfl

/-- An item is read off a text exactly if the text starts with a writing of it. -/
theorem readItem?_eq_some_iff : readItem? item w.reading cs = some (r, rest) ↔
    ∃ w', item.Spells w cs w' rest ∧ r = w'.reading := by
  cases item with
  | loose field =>
    rw [readItem?_loose_eq_some_iff]
    constructor
    · obtain ⟨blanks, hblanks, hcs⟩ := Text.exists_blanks cs
      rintro (⟨n, hn, rfl⟩ | ⟨rfl, negative, ds, hnil, hends, htrim, rfl⟩)
      · obtain ⟨ds, hnil, htrim, hrun, rfl⟩ := number?_eq_some_iff.mp hn
        rw [hcs, htrim]
        exact ⟨_, .loose hblanks hnil hrun, (w.reading_setNat field _).symm⟩
      · rw [hcs, htrim]
        exact ⟨_, .signed hblanks hnil hends, rfl⟩
    · rintro ⟨w', h, rfl⟩
      cases h with
      | @loose _ _ blanks _ ds hblanks hnil hrun =>
        refine .inl ⟨_, ?_, w.reading_setNat field _⟩
        rw [Text.trimStart_append_of_blank hblanks, trimStart_text hnil]
        exact number?_eq_some_iff.mpr ⟨ds, hnil, rfl, hrun, rfl⟩
      | @signed _ negative blanks _ ds hblanks hnil hends =>
        refine .inr ⟨rfl, negative, ds, hnil, hends, ?_, rfl⟩
        rw [Text.trimStart_append_of_blank hblanks]
        cases negative <;> rfl
  | exact field width =>
    show (exactNumber? width cs).map _ = _ ↔ _
    rw [Option.map_eq_some_iff]
    constructor
    · rintro ⟨⟨n, rest⟩, hn, heq⟩
      cases heq
      obtain ⟨ds, hlength, rfl, rfl⟩ := exactNumber?_eq_some_iff.mp hn
      exact ⟨_, .exact hlength, (w.reading_setNat field _).symm⟩
    · rintro ⟨w', h, rfl⟩
      cases h with
      | @exact _ _ _ _ ds hlength =>
        rw [w.reading_setNat]
        exact ⟨_, exactNumber?_eq_some_iff.mpr ⟨ds, hlength, rfl, rfl⟩, rfl⟩
  | oneOf chars =>
    rw [readItem?_oneOf_eq_some_iff]
    constructor
    · rintro ⟨rfl, c, hc, rfl⟩
      exact ⟨w, .oneOf hc, rfl⟩
    · rintro ⟨w', h, rfl⟩
      cases h with
      | @oneOf _ _ _ c hc => exact ⟨rfl, c, hc, rfl⟩
  | blanks =>
    constructor
    · intro h
      cases h
      obtain ⟨blanks, hblanks, hcs⟩ := Text.exists_blanks cs
      have hspells := Item.Spells.blanks (w := w) hblanks (Text.trimStart_trimStart cs)
      rw [← hcs] at hspells
      exact ⟨w, hspells, rfl⟩
    · rintro ⟨w', h, rfl⟩
      cases h with
      | blanks hblanks hrest =>
        rw [readItem?, Text.trimStart_append_of_blank hblanks, hrest]
  | fraction =>
    show (fraction? cs).map _ = _ ↔ _
    rw [Option.map_eq_some_iff]
    constructor
    · rintro ⟨⟨n, rest⟩, hn, heq⟩
      cases heq
      rcases fraction?_eq_some_iff.mp hn with ⟨rfl, rfl, hhead⟩ | ⟨ds, hnil, hends, rfl, rfl⟩
      · exact ⟨_, .whole hhead, w.reading_whole.symm⟩
      · exact ⟨_, .fraction hnil hends, rfl⟩
    · rintro ⟨w', h, rfl⟩
      cases h with
      | whole hhead =>
        rw [w.reading_whole]
        exact ⟨(0, cs), fraction?_eq_some_iff.mpr (.inl ⟨rfl, rfl, hhead⟩), rfl⟩
      | @fraction _ _ ds hnil hends =>
        exact ⟨_, fraction?_eq_some_iff.mpr (.inr ⟨ds, hnil, hends, rfl, rfl⟩), rfl⟩
  | offset =>
    show (offset? cs).map _ = _ ↔ _
    rw [Option.map_eq_some_iff]
    constructor
    · rintro ⟨⟨n, rest⟩, hn, heq⟩
      cases heq
      rcases offset?_eq_some_iff.mp hn with ⟨rfl, c, hc, rfl⟩ | ⟨c, more, m, hc, rfl, hm, rfl⟩
      · exact ⟨_, .utc hc, rfl⟩
      · obtain ⟨hours, minutes, hhours, hminutes, hhour, hminute, rfl, rfl⟩ :=
          offsetMinutes?_eq_some_iff.mp hm
        exact ⟨_, .offset hc hhours hminutes hhour hminute, rfl⟩
    · rintro ⟨w', h, rfl⟩
      cases h with
      | @utc _ _ c hc => exact ⟨(0, rest), offset?_utc hc rest, rfl⟩
      | @offset _ _ c hours minutes hc hhours hminutes hhour hminute =>
        have hm : offsetMinutes? (Digits.text hours ++ ':' :: (Digits.text minutes ++ rest)) =
            some (Digits.value hours * 60 + Digits.value minutes, rest) :=
          offsetMinutes?_eq_some_iff.mpr
            ⟨hours, minutes, hhours, hminutes, hhour, hminute, rfl, rfl⟩
        exact ⟨(_, rest), offset?_eq_some_iff.mpr (.inr ⟨c, _, _, hc, rfl, hm, rfl⟩), rfl⟩

/-- A text is read by a layout exactly if it is a writing of the layout. -/
theorem readFrom?_eq_some_iff : readFrom? layout w.reading cs = some r ↔
    ∃ w', layout.Spells w cs w' ∧ r = w'.reading := by
  induction layout generalizing w cs with
  | nil =>
    rw [readFrom?_nil_eq_some_iff]
    constructor
    · rintro ⟨rfl, rfl⟩
      exact ⟨w, .nil, rfl⟩
    · rintro ⟨w', h, rfl⟩
      cases h
      exact ⟨rfl, rfl⟩
  | cons item layout ih =>
    rw [readFrom?_cons_eq_some_iff]
    constructor
    · rintro ⟨r₁, rest, hitem, hlayout⟩
      obtain ⟨w₁, hspells, rfl⟩ := readItem?_eq_some_iff.mp hitem
      obtain ⟨w', hmore, rfl⟩ := ih.mp hlayout
      exact ⟨w', .cons hspells hmore, rfl⟩
    · rintro ⟨w', h, rfl⟩
      cases h with
      | cons hitem hlayout =>
        exact ⟨_, _, readItem?_eq_some_iff.mpr ⟨_, hitem, rfl⟩, ih.mpr ⟨w', hlayout, rfl⟩⟩

theorem read?_eq_some_iff {s : String} : layout.read? s = some r ↔
    ∃ w, layout.Spells {} s.toList w ∧ r = w.reading :=
  readFrom?_eq_some_iff (w := {})

end Layout

end RecordQuery
