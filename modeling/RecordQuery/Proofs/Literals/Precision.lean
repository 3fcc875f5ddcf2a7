import Mathlib.Data.Rat.Floor
import Mathlib.Tactic.Linarith
import RecordQuery.Proofs.Calendar.DayNumber
import RecordQuery.Proofs.Calendar.Written
import RecordQuery.Proofs.Literals.ExactNumbers

/-!
# What instants keep of what is written

A timestamp is read as the instant that it spells, its offset applied and a leap second kept as one,
down to the nanosecond. Digits of the fraction after the ninth are dropped without a word, so the
instant is earlier than what is written unless all of them are zero. Apart from that a text is read
exactly if it spells a date and a time of day that exist.

Results:
* `Digits.fraction_eq`: a fraction is its nanoseconds and what the digits after the ninth amount to.
* `Layout.Written.exists_instant?`: the instant that is read is the one that is written, rounded
  down to the nanosecond.
* `ScalarType.coerce_timestamp`: which literals are read as instants, and as which.
-/

namespace RecordQuery

/-! ## Fractions -/

namespace Digits

/-- The fraction that digits after a point spell. -/
def fraction (ds : List Digit) : ℚ := value ds / 10 ^ ds.length

theorem value_lt (ds : List Digit) : value ds < 10 ^ ds.length := by
  induction ds using List.reverseRecOn with
  | nil => exact Nat.one_pos
  | append_singleton ds d ih =>
    have hd := d.isLt
    rw [value_concat, List.length_append, List.length_singleton, pow_succ]
    omega

theorem value_eq_zero_iff {ds : List Digit} : value ds = 0 ↔ ∀ d ∈ ds, d = Digit.zero := by
  induction ds using List.reverseRecOn with
  | nil => exact ⟨fun _ => nofun, fun _ => rfl⟩
  | append_singleton ds d ih =>
    have hd : d.val = 0 ↔ d = Digit.zero := (Fin.ext_iff (b := Digit.zero)).symm
    rw [value_concat, List.forall_mem_append, List.forall_mem_singleton, ← ih, ← hd]
    omega

theorem fraction_nonneg (ds : List Digit) : 0 ≤ fraction ds := by
  unfold fraction
  positivity

theorem fraction_lt_one (ds : List Digit) : fraction ds < 1 := by
  unfold fraction
  rw [div_lt_one (by positivity)]
  exact_mod_cast value_lt ds

theorem fraction_eq_zero_iff {ds : List Digit} : fraction ds = 0 ↔ ∀ d ∈ ds, d = Digit.zero := by
  have hpos : (10 : ℚ) ^ ds.length ≠ 0 := by positivity
  unfold fraction
  rw [div_eq_zero_iff, or_iff_left hpos, Nat.cast_eq_zero, value_eq_zero_iff]

/-- A fraction is its nanoseconds and what the digits after the ninth amount to. -/
theorem fraction_eq (ds : List Digit) :
    fraction ds * 1000000000 = Layout.nanos ds + fraction (ds.drop 9) := by
  -- Of more than nine digits the first nine are kept as they are; fewer are filled up with zeros.
  rcases Nat.lt_or_ge 9 ds.length with hlong | hshort
  · have hkept : (ds.take 9).length = 9 := List.length_take_of_le (Nat.le_of_lt hlong)
    have hnanos : Layout.nanos ds = value (ds.take 9) := by
      show value (ds.take 9) * pow10 (9 - (ds.take 9).length) = _
      rw [hkept]
      exact Nat.mul_one _
    have hvalue : value ds = value (ds.take 9) * 10 ^ (ds.drop 9).length + value (ds.drop 9) := by
      rw [← value_append_eq, List.take_append_drop]
    have hlength : ds.length = 9 + (ds.drop 9).length := by
      rw [List.length_drop]
      omega
    have hpos : (10 : ℚ) ^ (ds.drop 9).length ≠ 0 := by positivity
    unfold fraction
    rw [hnanos, hvalue, hlength, pow_add]
    push_cast
    field_simp
    norm_num
  · have hkept : ds.take 9 = ds := List.take_of_length_le hshort
    have hnanos : Layout.nanos ds = value ds * 10 ^ (9 - ds.length) := by
      show value (ds.take 9) * pow10 (9 - (ds.take 9).length) = _
      rw [hkept]
      rfl
    have hnone : fraction (ds.drop 9) = 0 := by
      rw [List.drop_of_length_le hshort]
      exact fraction_eq_zero_iff.mpr nofun
    have hpow : (10 : ℚ) ^ ds.length * 10 ^ (9 - ds.length) = 1000000000 := by
      rw [← pow_add, Nat.add_sub_cancel' hshort]
      norm_num
    have hpos : (10 : ℚ) ^ ds.length ≠ 0 := by positivity
    rw [hnone, hnanos, ← hpow, fraction]
    push_cast
    field_simp
    ring

end Digits

theorem Layout.nanos_lt (ds : List Digit) : nanos ds < 1000000000 := by
  have hsum := Digits.fraction_eq ds
  have hlt := Digits.fraction_lt_one ds
  have hdropped := Digits.fraction_nonneg (ds.drop 9)
  have hcast : (nanos ds : ℚ) < 1000000000 := by linarith
  exact_mod_cast hcast

/-! ## The instant that is written -/

namespace Layout.Written

variable {w w' : Written} {item : Item} {layout : Layout} {cs rest : List Char}

/-- The nanoseconds up to what is written, in Coordinated Universal Time. -/
def time (w : Written) : ℚ :=
  (86400 * dayNumber w.year w.month w.day + (3600 * w.hour + 60 * w.minute + w.second) -
    60 * w.offset + Digits.fraction w.fraction) * 1000000000

/-- What is written is a date in the supported range and a time of day, of which second 60 is a leap
second. -/
structure Exists (w : Written) : Prop where
  year : -262143 ≤ w.year ∧ w.year ≤ 262142
  day : 1 ≤ w.day ∧ w.day ≤ daysInMonth w.year w.month
  hour : w.hour < 24
  minute : w.minute < 60
  second : w.second ≤ 60

/-- An offset is less than a day, and only a year of four digits has one. -/
structure Zoned (w : Written) : Prop where
  bounds : -1440 < w.offset ∧ w.offset < 1440
  year : w.offset ≠ 0 → 0 ≤ w.year ∧ w.year ≤ 9999

end Layout.Written

/-- An instant is what is written, down to the nanosecond. -/
structure Instant.Keeps (t : Instant) (w : Layout.Written) : Prop where
  /-- The time is rounded down. -/
  time : t.time = ⌊w.time⌋
  /-- A leap second is one. -/
  leap : 1000000000 ≤ t.nano ↔ w.second = 60
  /-- Nothing is lost only if all digits after the ninth are zero. -/
  exact : t.time = w.time ↔ ∀ d ∈ w.fraction.drop 9, d = Digit.zero

/-- No two instants are what is written. -/
theorem Instant.Keeps.unique {t u : Instant} {w : Layout.Written} (ht : t.Keeps w)
    (hu : u.Keeps w) : t = u :=
  eq_of_time (ht.time.trans hu.time.symm) (ht.leap.trans hu.leap.symm)

/-- The instant whose time is that of the whole seconds and of the nanoseconds of the fraction is
what is written. -/
theorem Instant.keeps_of_time {t : Instant} {w : Layout.Written}
    (htime : t.time = (86400 * dayNumber w.year w.month w.day +
      (3600 * w.hour + 60 * w.minute + w.second)) * 1000000000 + Layout.nanos w.fraction -
      60 * w.offset * 1000000000)
    (hleap : 1000000000 ≤ t.nano ↔ w.second = 60) : t.Keeps w := by
  have hwritten : w.time = t.time + Digits.fraction (w.fraction.drop 9) := by
    have hsum := Digits.fraction_eq w.fraction
    rw [htime, Layout.Written.time]
    push_cast
    linarith
  refine ⟨?_, hleap, ?_⟩
  · rw [hwritten, Int.floor_intCast_add, Int.floor_eq_zero_iff.mpr, add_zero]
    exact ⟨Digits.fraction_nonneg _, Digits.fraction_lt_one _⟩
  · rw [hwritten, left_eq_add, Digits.fraction_eq_zero_iff]

namespace Layout.Written

variable {w w' : Written} {item : Item} {layout : Layout} {cs rest : List Char} {t : Instant}

/-- What exists is read as an instant, the one that is written. -/
theorem exists_instant? (h : w.Exists) (hzoned : w.Zoned) :
    ∃ t, w.reading.instant? = some t ∧ t.Keeps w := by
  obtain ⟨date, hdate, hnumber⟩ := Date.exists_make? w.year w.month w.day h.year h.day
  obtain ⟨t, ht, rfl, htime, hleap⟩ := Instant.exists_make? date h.hour h.minute h.second
    (nanos_lt w.fraction)
  have hyear : t.date.year = w.year := (Date.make?_eq_some_iff.mp hdate).2.2.1
  -- With an offset the year has four digits, so the day before and the day after are in range.
  obtain ⟨u, hu, hshifted, hnano⟩ := Instant.exists_minusMinutes? (t := t) hzoned.bounds
    fun hoffset => by
      have hfour := hzoned.year hoffset
      omega
  refine ⟨u, Reading.instant?_eq hdate ht hu, Instant.keeps_of_time ?_ (hnano ▸ hleap)⟩
  rw [hshifted, htime, hnumber]

/-- What does not exist is not read as an instant. -/
theorem exists_of_instant? (h : w.reading.instant? = some t) : w.Exists := by
  obtain ⟨date, hdate, h⟩ := Option.bind_eq_some_iff.mp h
  obtain ⟨u, hu, -⟩ := Option.bind_eq_some_iff.mp h
  obtain ⟨hyear, hday, -⟩ := Date.make?_eq_some_iff.mp hdate
  obtain ⟨hhour, hminute, hsecond⟩ := Instant.bounds_of_make? hu
  exact ⟨hyear, hday, hhour, hminute, hsecond⟩

/-! ## Years and offsets -/

theorem offset_setNat (w : Written) (field : Field) (n : Nat) :
    (w.setNat field n).offset = w.offset := by
  cases field <;> rfl

theorem year_setNat {field : Field} (h : field ≠ .year) (w : Written) (n : Nat) :
    (w.setNat field n).year = w.year := by
  cases field with
  | year => exact absurd rfl h
  | _ => rfl

end Layout.Written

namespace Layout

variable {w w' : Written} {item : Item} {layout : Layout} {cs rest : List Char}

/-- The field that an item sets, if any. -/
def Item.field? : Item → Option Field
  | loose field => some field
  | exact field _ => some field
  | _ => none

theorem Item.Spells.offset_bounds (h : item.Spells w cs w' rest)
    (hw : -1440 < w.offset ∧ w.offset < 1440) : -1440 < w'.offset ∧ w'.offset < 1440 := by
  cases h with
  | loose _ _ _ => rwa [Written.offset_setNat]
  | exact _ => rwa [Written.offset_setNat]
  | utc _ =>
    show -1440 < (0 : Int) ∧ (0 : Int) < 1440
    decide
  | offset _ _ _ hhour hminute =>
    unfold RecordQuery.signed
    dsimp only
    split <;> omega
  | _ => exact hw

theorem Item.Spells.offset_eq (h : item.Spells w cs w' rest) (hitem : item ≠ .offset) :
    w'.offset = w.offset := by
  cases h with
  | loose _ _ _ => exact w.offset_setNat _ _
  | exact _ => exact w.offset_setNat _ _
  | utc _ => exact absurd rfl hitem
  | offset _ _ _ _ _ => exact absurd rfl hitem
  | _ => rfl

theorem Item.Spells.year_eq (h : item.Spells w cs w' rest) (hitem : item.field? ≠ some .year) :
    w'.year = w.year := by
  cases h with
  | loose _ _ _ => exact Written.year_setNat (fun hyear => hitem (congrArg some hyear)) w _
  | exact _ => exact Written.year_setNat (fun hyear => hitem (congrArg some hyear)) w _
  | signed _ _ _ => exact absurd rfl hitem
  | _ => rfl

theorem Spells.offset_bounds (h : layout.Spells w cs w')
    (hw : -1440 < w.offset ∧ w.offset < 1440) : -1440 < w'.offset ∧ w'.offset < 1440 := by
  induction h with
  | nil => exact hw
  | cons hitem _ ih => exact ih (hitem.offset_bounds hw)

theorem Spells.offset_eq (h : layout.Spells w cs w') (hlayout : .offset ∉ layout) :
    w'.offset = w.offset := by
  induction h with
  | nil => rfl
  | cons hitem _ ih =>
    obtain ⟨hfirst, hmore⟩ := not_or.mp (mt List.mem_cons.mpr hlayout)
    rw [ih hmore, hitem.offset_eq (Ne.symm hfirst)]

theorem Spells.year_eq (h : layout.Spells w cs w')
    (hlayout : ∀ item ∈ layout, item.field? ≠ some .year) : w'.year = w.year := by
  induction h with
  | nil => rfl
  | cons hitem _ ih =>
    obtain ⟨hfirst, hmore⟩ := List.forall_mem_cons.mp hlayout
    rw [ih hmore, hitem.year_eq hfirst]

theorem Spells.year_of_zonedTime (h : zonedTime.Spells w cs w') : 0 ≤ w'.year ∧ w'.year ≤ 9999 := by
  have hsplit : Spells (.exact .year 4 :: zonedTime.tail) w cs w' := h
  cases hsplit with
  | cons hitem hmore =>
    cases hitem with
    | @exact _ _ _ _ ds hlength =>
      have hyear := hmore.year_eq (by decide)
      have hlt := Digits.value_lt ds
      rw [hlength] at hlt
      rw [hyear]
      show 0 ≤ (Digits.value ds : Int) ∧ (Digits.value ds : Int) ≤ 9999
      omega

/-- A text is a writing of a timestamp, in one of the layouts. -/
def Written.SpelledBy (w : Written) (s : String) : Prop :=
  ∃ layout ∈ instants, layout.Spells {} s.toList w

theorem Written.SpelledBy.zoned {s : String} (h : w.SpelledBy s) : w.Zoned := by
  obtain ⟨layout, hmem, hspells⟩ := h
  refine ⟨hspells.offset_bounds (by decide), fun hoffset => ?_⟩
  have hlocal : .offset ∉ layout → w.offset = 0 := hspells.offset_eq
  simp only [instants, List.mem_cons, List.not_mem_nil, or_false] at hmem
  rcases hmem with rfl | rfl | rfl | rfl
  · exact hspells.year_of_zonedTime
  · exact absurd (hlocal (by decide)) hoffset
  · exact absurd (hlocal (by decide)) hoffset
  · exact absurd (hlocal (by decide)) hoffset

end Layout

/-! ## Literals -/

theorem Instant.ofText?_eq_some_iff_spelledBy {s : String} {t : Instant} :
    ofText? s = some t ↔ ∃ w : Layout.Written, w.SpelledBy s ∧ w.reading.instant? = some t := by
  rw [ofText?_eq_some_iff]
  constructor
  · rintro ⟨layout, hmem, ht⟩
    obtain ⟨r, hr, ht⟩ := Option.bind_eq_some_iff.mp ht
    obtain ⟨w, hspells, rfl⟩ := Layout.read?_eq_some_iff.mp hr
    exact ⟨w, ⟨layout, hmem, hspells⟩, ht⟩
  · rintro ⟨w, ⟨layout, hmem, hspells⟩, ht⟩
    have hread : layout.read? s = some w.reading := Layout.read?_eq_some_iff.mpr ⟨w, hspells, rfl⟩
    exact ⟨layout, hmem, Option.bind_eq_some_iff.mpr ⟨w.reading, hread, ht⟩⟩

namespace ScalarType

/-- A literal that spells a timestamp that exists is read as that instant, rounded down to the
nanosecond. Every other literal is refused. -/
theorem coerce_timestamp (s : String) :
    (∀ w : Layout.Written, w.SpelledBy s → w.Exists →
      ∃ t : Instant, instant.coerce s = .ok (.instant t) ∧ t.Keeps w ∧
        ∀ u : Instant, u.Keeps w → u = t) ∧
    ((∀ w : Layout.Written, w.SpelledBy s → ¬w.Exists) →
      instant.coerce s = .error (.value "datetime" s)) := by
  constructor
  · intro w hspelled hexists
    obtain ⟨t, ht, hkeeps⟩ := Layout.Written.exists_instant? hexists hspelled.zoned
    have hread : Instant.ofText? s = some t :=
      Instant.ofText?_eq_some_iff_spelledBy.mpr ⟨w, hspelled, ht⟩
    refine ⟨t, ?_, hkeeps, fun u hu => hu.unique hkeeps⟩
    exact coerce_eq_ok_iff.mpr (Option.map_eq_some_iff.mpr ⟨t, hread, rfl⟩)
  · intro hnone
    refine coerce_eq_error_iff.mpr ⟨Option.map_eq_none_iff.mpr ?_, rfl⟩
    refine Option.eq_none_iff_forall_ne_some.mpr fun t ht => ?_
    obtain ⟨w, hspelled, hinstant⟩ := Instant.ofText?_eq_some_iff_spelledBy.mp ht
    exact hnone w hspelled (Layout.Written.exists_of_instant? hinstant)

/-- Ten digits of a fraction are read like the first nine of them. -/
theorem coerce_tenthDigit :
    ∃ w : Layout.Written, w.SpelledBy "2024-01-01T12:00:00.1234567891Z" ∧ w.Exists ∧
      ∃ t : Instant, instant.coerce "2024-01-01T12:00:00.1234567891Z" = .ok (.instant t) ∧
        t.nano = 123456789 ∧ t.time < w.time := by
  let fraction : List Digit := [1, 2, 3, 4, 5, 6, 7, 8, 9, 1]
  let w : Layout.Written := ⟨2024, 1, 1, 12, 0, 0, fraction, 0⟩
  let t : Instant :=
    ⟨⟨2024, 1, 1, by decide, by decide, by decide, by decide⟩, 43200, 123456789, by decide,
      by decide, by decide⟩
  have htext : "2024-01-01T12:00:00.1234567891Z".toList =
      Digits.text [2, 0, 2, 4] ++ '-' :: (Digits.text [0, 1] ++ '-' :: (Digits.text [0, 1] ++ 'T' ::
        (Digits.text [1, 2] ++ ':' :: (Digits.text [0, 0] ++ ':' :: (Digits.text [0, 0] ++
          '.' :: (Digits.text fraction ++ ['Z'])))))) := by decide +kernel
  have hspells : Layout.zonedTime.Spells {} "2024-01-01T12:00:00.1234567891Z".toList w := by
    rw [htext]
    refine .cons (.exact rfl) (.cons (.oneOf (by decide)) (.cons (.exact rfl)
      (.cons (.oneOf (by decide)) (.cons (.exact rfl) (.cons (.oneOf (by decide))
        (.cons (.exact rfl) (.cons (.oneOf (by decide)) (.cons (.exact rfl)
          (.cons (.oneOf (by decide)) (.cons (.exact rfl) ?_))))))))))
    exact .cons (.fraction nofun (Digits.ends_cons rfl [])) (.cons (.utc (.inl rfl)) .nil)
  have hspelled : w.SpelledBy "2024-01-01T12:00:00.1234567891Z" :=
    ⟨Layout.zonedTime, List.mem_cons_self, hspells⟩
  have hexists : w.Exists := ⟨by decide, by decide, by decide, by decide, by decide⟩
  obtain ⟨u, hu, hkeeps⟩ := Layout.Written.exists_instant? hexists hspelled.zoned
  have hread : Instant.ofText? "2024-01-01T12:00:00.1234567891Z" = some t := by decide +kernel
  have hsame : t = u := Option.some.inj
    (hread.symm.trans (Instant.ofText?_eq_some_iff_spelledBy.mpr ⟨w, hspelled, hu⟩))
  rw [← hsame] at hkeeps
  have hdropped : (t.time : ℚ) ≠ w.time := mt hkeeps.exact.mp (by decide)
  refine ⟨w, hspelled, hexists, t,
    coerce_eq_ok_iff.mpr (Option.map_eq_some_iff.mpr ⟨t, hread, rfl⟩), rfl, ?_⟩
  refine lt_of_le_of_ne ?_ hdropped
  rw [hkeeps.time]
  exact Int.floor_le w.time

end ScalarType

end RecordQuery
