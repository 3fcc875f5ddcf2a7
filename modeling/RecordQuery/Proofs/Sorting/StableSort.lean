/-!
# Stable sorting

Sorting by a comparison that is a total preorder on the elements at hand, and only on them: values
of different kinds and NaN have no place in an order, so no comparison of values is a total preorder
on all of them.

Results:
* `stablySorted_mergeSort`: merge sort puts the elements in order and keeps the order of ties.
* `StablySorted.unique`: there is only one such list, so the algorithm does not matter.
* `StablySorted.then`: sorting twice is sorting once by the second comparison, where the first
  settles the ties.
-/

namespace RecordQuery

variable {α β : Type} {P Q : α → Prop} {cmp cmp' : α → α → Ordering}

/-! ## Total preorders -/

/-- A comparison that is a total preorder on the elements with a property. -/
structure PreorderOn (P : α → Prop) (cmp : α → α → Ordering) : Prop where
  swap : ∀ a b, P a → P b → cmp b a = (cmp a b).swap
  trans : ∀ a b c, P a → P b → P c → cmp a b ≠ .gt → cmp b c ≠ .gt → cmp a c ≠ .gt

namespace PreorderOn

theorem mono (h : PreorderOn P cmp) (hQ : ∀ a, Q a → P a) : PreorderOn Q cmp where
  swap a b ha hb := h.swap a b (hQ a ha) (hQ b hb)
  trans a b c ha hb hc := h.trans a b c (hQ a ha) (hQ b hb) (hQ c hc)

theorem comap (h : PreorderOn P cmp) (f : β → α) :
    PreorderOn (fun b => P (f b)) fun a b => cmp (f a) (f b) where
  swap a b := h.swap (f a) (f b)
  trans a b c := h.trans (f a) (f b) (f c)

theorem of_transCmp (cmp : α → α → Ordering) [Std.TransCmp cmp] : PreorderOn P cmp where
  swap _ _ _ _ := Std.OrientedCmp.eq_swap
  trans a b c _ _ _ hab hbc := by
    rw [Ne, ← Ordering.isLE_eq_false, Bool.not_eq_false] at *
    exact Std.TransCmp.isLE_trans hab hbc

theorem of_compare [Ord β] [Std.TransOrd β] (f : α → β) :
    PreorderOn P fun a b => compare (f a) (f b) :=
  (of_transCmp (P := fun _ => True) compare).comap f |>.mono fun _ _ => trivial

theorem eq_refl (h : PreorderOn P cmp) {a : α} (ha : P a) : cmp a a = .eq := by
  have := h.swap a a ha ha
  cases ho : cmp a a <;> simp_all

/-- The order turned around. -/
theorem reverse (h : PreorderOn P cmp) : PreorderOn P fun a b => (cmp a b).swap where
  swap a b ha hb := by rw [h.swap a b ha hb]
  trans a b c ha hb hc hab hbc := by
    rw [← h.swap a b ha hb] at hab
    rw [← h.swap b c hb hc] at hbc
    rw [← h.swap a c ha hc]
    exact h.trans c b a hc hb ha hbc hab

theorem lt_of_le_of_lt (h : PreorderOn P cmp) {a b c : α} (ha : P a) (hb : P b) (hc : P c)
    (hab : cmp a b ≠ .gt) (hbc : cmp b c = .lt) : cmp a c = .lt := by
  have hle : cmp a c ≠ .gt := h.trans a b c ha hb hc hab (by simp [hbc])
  have hne : cmp a c ≠ .eq := by
    intro hac
    have hcb := h.trans c a b hc ha hb (by simp [h.swap a c ha hc, hac]) hab
    simp [h.swap b c hb hc, hbc] at hcb
  cases ho : cmp a c <;> simp_all

theorem lt_of_lt_of_le (h : PreorderOn P cmp) {a b c : α} (ha : P a) (hb : P b) (hc : P c)
    (hab : cmp a b = .lt) (hbc : cmp b c ≠ .gt) : cmp a c = .lt := by
  have hle : cmp a c ≠ .gt := h.trans a b c ha hb hc (by simp [hab]) hbc
  have hne : cmp a c ≠ .eq := by
    intro hac
    have hba := h.trans b c a hb hc ha hbc (by simp [h.swap a c ha hc, hac])
    simp [h.swap a b ha hb, hab] at hba
  cases ho : cmp a c <;> simp_all

theorem eq_trans (h : PreorderOn P cmp) {a b c : α} (ha : P a) (hb : P b) (hc : P c)
    (hab : cmp a b = .eq) (hbc : cmp b c = .eq) : cmp a c = .eq := by
  have hle : cmp a c ≠ .gt := h.trans a b c ha hb hc (by simp [hab]) (by simp [hbc])
  have hge : cmp c a ≠ .gt := h.trans c b a hc hb ha (by simp [h.swap b c hb hc, hbc])
    (by simp [h.swap a b ha hb, hab])
  rw [h.swap a c ha hc] at hge
  cases ho : cmp a c <;> simp_all

/-- Elements that tie stand in the same order to every other element. -/
theorem congr_right (h : PreorderOn P cmp) {a b c : α} (ha : P a) (hb : P b) (hc : P c)
    (hbc : cmp b c = .eq) : cmp a b = cmp a c := by
  have hcb : cmp c b = .eq := by rw [h.swap b c hb hc, hbc]; rfl
  cases hab : cmp a b with
  | lt => rw [h.lt_of_lt_of_le ha hb hc hab (by simp [hbc])]
  | eq => rw [h.eq_trans ha hb hc hab hbc]
  | gt =>
    have hba : cmp b a = .lt := by rw [h.swap a b ha hb, hab]; rfl
    rw [h.swap c a hc ha, h.lt_of_le_of_lt hc hb ha (by simp [hcb]) hba]
    rfl

/-- Two orders, of which the second settles the ties of the first. -/
theorem «then» (h : PreorderOn P cmp) (h' : PreorderOn P cmp') :
    PreorderOn P fun a b => (cmp a b).then (cmp' a b) where
  swap a b ha hb := by rw [h.swap a b ha hb, h'.swap a b ha hb, Ordering.swap_then]
  trans a b c ha hb hc hab hbc := by
    have htrans' := h'.trans a b c ha hb hc
    cases h1 : cmp a b <;> cases h2 : cmp b c <;>
      simp only [h1, h2, Ordering.then, ne_eq] at hab hbc
    case lt.lt => simp [h.lt_of_lt_of_le ha hb hc h1 (by simp [h2]), Ordering.then]
    case lt.eq => simp [h.lt_of_lt_of_le ha hb hc h1 (by simp [h2]), Ordering.then]
    case eq.lt => simp [h.lt_of_le_of_lt ha hb hc (by simp [h1]) h2, Ordering.then]
    case eq.eq => simpa [h.eq_trans ha hb hc h1 h2, Ordering.then] using htrans' hab hbc
    all_goals simp at *

end PreorderOn

/-! ## Sorted lists -/

/-- `out` has the elements of `l` in order, and elements that tie stand as they stand in `l`. -/
structure StablySorted (cmp : α → α → Ordering) (l out : List α) : Prop where
  perm : out.Perm l
  pairwise : out.Pairwise fun a b => cmp a b ≠ .gt
  ties : ∀ a ∈ l, (out.filter fun b => cmp a b == .eq) = l.filter fun b => cmp a b == .eq

theorem stablySorted_mergeSort_of_forall (h : PreorderOn (fun _ => True) cmp) (l : List α) :
    StablySorted cmp l (l.mergeSort fun a b => cmp a b != .gt) := by
  have htrans : ∀ a b c, (cmp a b != .gt) = true → (cmp b c != .gt) = true →
      (cmp a c != .gt) = true := by
    intro a b c
    simpa using h.trans a b c trivial trivial trivial
  have htotal : ∀ a b, (cmp a b != .gt || cmp b a != .gt) = true := by
    intro a b
    rw [h.swap a b trivial trivial]
    cases cmp a b <;> rfl
  have hperm := List.mergeSort_perm l fun a b => cmp a b != .gt
  refine ⟨hperm, ?_, fun a _ => ?_⟩
  · simpa using List.pairwise_mergeSort htrans htotal l
  -- the elements that tie with `a` are in order already, so they stay as they are
  · have hsorted : (l.filter fun b => cmp a b == .eq).Pairwise
        fun b c => (cmp b c != .gt) = true := by
      refine List.pairwise_of_forall_mem_list fun b hb c hc => ?_
      have hab : cmp a b = .eq := by simpa using (List.mem_filter.mp hb).2
      have hac : cmp a c = .eq := by simpa using (List.mem_filter.mp hc).2
      have hba : cmp b a = .eq := by rw [h.swap a b trivial trivial, hab]; rfl
      simp [h.eq_trans trivial trivial trivial hba hac]
    have hsub := (List.sublist_mergeSort htrans htotal hsorted List.filter_sublist).filter
      fun b => cmp a b == .eq
    rw [List.filter_filter] at hsub
    simp only [Bool.and_self] at hsub
    exact (hsub.eq_of_length (hperm.filter _).length_eq.symm).symm

/-- Lists correspond element by element to lists of a subtype, where the order is total. -/
theorem StablySorted.map {f : β → α} {l out : List β}
    (h : StablySorted (fun a b => cmp (f a) (f b)) l out) :
    StablySorted cmp (l.map f) (out.map f) where
  perm := h.perm.map f
  pairwise := h.pairwise.map f fun _ _ hab => hab
  ties a ha := by
    obtain ⟨b, hb, rfl⟩ := List.mem_map.mp ha
    rw [List.filter_map, List.filter_map]
    exact congrArg (List.map f) (h.ties b hb)

theorem stablySorted_mergeSort {l : List α} (h : PreorderOn (· ∈ l) cmp) :
    StablySorted cmp l (l.mergeSort fun a b => cmp a b != .gt) := by
  have hattach : PreorderOn (fun _ : {a // a ∈ l} => True) fun a b => cmp a.val b.val :=
    (h.comap Subtype.val).mono fun a _ => a.property
  have hmap := (stablySorted_mergeSort_of_forall hattach l.attach).map
  rw [List.map_mergeSort (s := fun a b => cmp a b != .gt) fun _ _ _ _ => rfl] at hmap
  simpa only [List.attach_map_subtype_val] using hmap

/-! ## Uniqueness -/

section Ties

variable {l m : List α} {a : α}

/-- Lists with the same ties have the same elements. -/
theorem mem_iff_of_ties (h : PreorderOn P cmp) (ha : P a)
    (hties : (l.filter fun b => cmp a b == .eq) = m.filter fun b => cmp a b == .eq) :
    a ∈ l ↔ a ∈ m := by
  have hmem := congrArg (a ∈ ·) hties
  simpa [List.mem_filter, h.eq_refl ha] using hmem

theorem head_le_of_mem (h : PreorderOn P cmp) (ha : P a)
    (hp : (a :: l).Pairwise fun a b => cmp a b ≠ .gt) : ∀ b ∈ a :: l, cmp a b ≠ .gt := by
  intro b hb
  rcases List.mem_cons.mp hb with rfl | hb
  · simp [h.eq_refl ha]
  · exact (List.pairwise_cons.mp hp).1 b hb

theorem ties_tail {c : α}
    (hties : ((a :: l).filter fun b => cmp c b == .eq) =
      (a :: m).filter fun b => cmp c b == .eq) :
    (l.filter fun b => cmp c b == .eq) = m.filter fun b => cmp c b == .eq := by
  rw [List.filter_cons, List.filter_cons] at hties
  split at hties
  · exact (List.cons.inj hties).2
  · exact hties

/-- A sorted list is determined by the order in which the elements of each tie stand. -/
theorem eq_of_pairwise_of_ties (h : PreorderOn P cmp) (hl : ∀ a ∈ l, P a) (hm : ∀ a ∈ m, P a)
    (hlp : l.Pairwise fun a b => cmp a b ≠ .gt) (hmp : m.Pairwise fun a b => cmp a b ≠ .gt)
    (hties : ∀ a, P a → (l.filter fun b => cmp a b == .eq) = m.filter fun b => cmp a b == .eq) :
    l = m := by
  induction l generalizing m with
  | nil =>
    cases m with
    | nil => rfl
    | cons b m =>
      have hb : P b := hm b (by simp)
      simpa using (mem_iff_of_ties h hb (hties b hb)).mpr (by simp)
  | cons a l ih =>
    have ha : P a := hl a (by simp)
    cases m with
    | nil => simpa using (mem_iff_of_ties h ha (hties a ha)).mp (by simp)
    | cons b m =>
      have hb : P b := hm b (by simp)
      have hab : cmp a b ≠ .gt :=
        head_le_of_mem h ha hlp b ((mem_iff_of_ties h hb (hties b hb)).mpr (by simp))
      have hba : cmp b a ≠ .gt :=
        head_le_of_mem h hb hmp a ((mem_iff_of_ties h ha (hties a ha)).mp (by simp))
      have heq : cmp a b = .eq := by
        rw [h.swap a b ha hb] at hba
        cases ho : cmp a b <;> simp_all
      -- both heads are the first of the same tie
      have hhead := hties a ha
      simp only [List.filter_cons, h.eq_refl ha, heq, beq_self_eq_true, ↓reduceIte,
        List.cons.injEq] at hhead
      obtain ⟨rfl, -⟩ := hhead
      congr 1
      exact ih (fun x hx => hl x (by simp [hx])) (fun x hx => hm x (by simp [hx])) hlp.tail
        hmp.tail fun c hc => ties_tail (hties c hc)

end Ties

namespace StablySorted

variable {l m out out' : List α}

theorem unique (h : PreorderOn (· ∈ l) cmp) (ho : StablySorted cmp l out)
    (ho' : StablySorted cmp l out') : out = out' :=
  eq_of_pairwise_of_ties h (fun _ => ho.perm.mem_iff.mp) (fun _ => ho'.perm.mem_iff.mp)
    ho.pairwise ho'.pairwise fun a ha => (ho.ties a ha).trans (ho'.ties a ha).symm

theorem eq_mergeSort (h : PreorderOn (· ∈ l) cmp) (ho : StablySorted cmp l out) :
    out = l.mergeSort fun a b => cmp a b != .gt :=
  ho.unique h (stablySorted_mergeSort h)

/-! ## Sorting twice -/

theorem refl (l : List α) : StablySorted (fun _ _ => .eq) l l where
  perm := .refl l
  pairwise := List.pairwise_of_forall fun _ _ => by simp
  ties _ _ := rfl

theorem «then» (h' : PreorderOn (· ∈ l) cmp') (hm : StablySorted cmp l m)
    (hout : StablySorted cmp' m out) :
    StablySorted (fun a b => (cmp' a b).then (cmp a b)) l out where
  perm := hout.perm.trans hm.perm
  pairwise := by
    rw [List.pairwise_iff_forall_sublist]
    intro a b hab
    have hle : cmp' a b ≠ .gt := List.pairwise_iff_forall_sublist.mp hout.pairwise hab
    cases hc : cmp' a b with
    | lt => simp [Ordering.then]
    | gt => exact absurd hc hle
    | eq =>
      -- a tie of the second sort stands as the first sort left it
      have ham : a ∈ m := hout.perm.mem_iff.mp (hab.subset (by simp))
      have hrefl : cmp' a a = .eq := h'.eq_refl (hm.perm.mem_iff.mp ham)
      have htie := hab.filter fun b => cmp' a b == .eq
      simp only [List.filter_cons, hrefl, hc, beq_self_eq_true, ↓reduceIte, List.filter_nil,
        hout.ties a ham] at htie
      simpa [Ordering.then] using
        List.pairwise_iff_forall_sublist.mp hm.pairwise (htie.trans List.filter_sublist)
  ties a ha := by
    have hsplit : ∀ t : List α, (t.filter fun b => (cmp' a b).then (cmp a b) == .eq) =
        (t.filter fun b => cmp' a b == .eq).filter fun b => cmp a b == .eq := by
      intro t
      rw [List.filter_filter]
      refine List.filter_congr fun b _ => ?_
      cases cmp' a b <;> simp [Ordering.then]
    rw [hsplit, hsplit, hout.ties a (hm.perm.mem_iff.mpr ha), List.filter_filter,
      List.filter_filter]
    have hswap := congrArg (List.filter fun b => cmp' a b == .eq) (hm.ties a ha)
    simpa only [List.filter_filter, Bool.and_comm] using hswap

end StablySorted

end RecordQuery
