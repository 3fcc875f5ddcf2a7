import Mathlib.Data.Fintype.Basic
import Mathlib.Tactic.FinCases
import RecordQuery.Json.Document

/-!
# From the text of a document back to its tokens

A written document has no blanks, so its tokens stand directly one after the other. A number is the
only token that what follows could prolong; in a document a number is followed by a comma, by a
closing bracket or by nothing.

Results:
* `Token.ofChars_chars`: a token is read back from the front of a text that does not prolong it.
* `Document.lexes_tokens`: the tokens of a document are read back from their text.
* `Document.ofText_render`: a document without a broken part is read back from its own text.
-/

namespace RecordQuery.Json

namespace Token

/-! ## One token -/

/-- Whether a token is the same whatever follows it: a number may be prolonged. -/
def standsAlone : Token → Bool
  | number _ | invalid => false
  | _ => true

theorem ofChars_of_scan {c : Char} {cs rest : List Char} {t : Token} (hc : isSpace c = false)
    (h : scan? c cs = some (t, rest)) : ofChars (c :: cs) = t :: ofChars rest := by
  rw [ofChars, if_neg (by simp [hc])]
  split
  · next hnone => simp [h] at hnone
  · next hsome =>
    rw [h] at hsome
    cases hsome
    rfl

/-- A character that numbers start with. -/
def StartsNumber (c : Char) : Prop := c = '-' ∨ ∃ d : Digit, c = d.toChar

theorem exists_startsNumber (n : Numeral) : ∃ c cs, n.chars = c :: cs ∧ StartsNumber c := by
  obtain ⟨_ | _, whole, fraction, exponent⟩ := n
  · obtain ⟨d, ds, hds⟩ := List.exists_cons_of_ne_nil (Digits.ofNat_ne_nil whole)
    rw [Numeral.chars, hds]
    exact ⟨d.toChar, _, rfl, .inr ⟨d, rfl⟩⟩
  · exact ⟨'-', _, rfl, .inl rfl⟩

theorem scan?_of_startsNumber {c : Char} (hc : StartsNumber c) (cs : List Char) :
    scan? c cs = (Numeral.scan? (c :: cs)).map fun (n, rest) => (number n, rest) := by
  rcases hc with rfl | ⟨d, rfl⟩
  · rfl
  · fin_cases d <;> rfl

theorem isSpace_of_startsNumber {c : Char} (hc : StartsNumber c) : isSpace c = false := by
  rcases hc with rfl | ⟨d, rfl⟩
  · rfl
  · revert d
    decide

theorem ofChars_chars {t : Token} (ht : t ≠ invalid) {rest : List Char}
    (h : ∀ n, t = number n → Numeral.Ends rest) :
    ofChars (t.chars ++ rest) = t :: ofChars rest := by
  match t, ht, h with
  | openArray, _, _ | closeArray, _, _ | openObject, _, _ | closeObject, _, _ | comma, _, _
  | colon, _, _ | null, _, _ | bool true, _, _ | bool false, _, _ =>
    exact ofChars_of_scan rfl rfl
  | number n, _, h =>
    have hscan := Numeral.scan?_chars n (h n rfl)
    obtain ⟨c, cs, hchars, hc⟩ := exists_startsNumber n
    rw [hchars, List.cons_append] at hscan
    rw [chars, hchars, List.cons_append]
    refine ofChars_of_scan (isSpace_of_startsNumber hc) ?_
    rw [scan?_of_startsNumber hc, hscan]
    rfl
  | text (some s), _, _ =>
    refine ofChars_of_scan rfl ?_
    show (Escape.scan? (Escape.chars s ++ rest)).map _ = _
    rw [Escape.scan?_chars]
    rfl
  | text none, _, _ => exact ofChars_of_scan rfl rfl

/-! ## Tokens one after the other -/

/-- The text of the tokens is read as these tokens, whatever follows it that prolongs no number. -/
def Lexes (ts : List Token) : Prop :=
  ∀ rest, Numeral.Ends rest → ofChars (ts.flatMap chars ++ rest) = ts ++ ofChars rest

/-- The text of the tokens prolongs no number, if what follows it does not. -/
def Closes (ts : List Token) : Prop :=
  ∀ rest, Numeral.Ends rest → Numeral.Ends (ts.flatMap chars ++ rest)

theorem Lexes.nil : Lexes [] := fun _ _ => rfl

theorem Lexes.append {ts us : List Token} (hts : Lexes ts) (hus : Lexes us) (hc : Closes us) :
    Lexes (ts ++ us) := by
  intro rest hrest
  rw [List.flatMap_append, List.append_assoc, hts _ (hc rest hrest), hus rest hrest,
    List.append_assoc]

/-- A token that is not a number is read back whatever follows it. -/
theorem Lexes.cons {t : Token} {ts : List Token} (hts : Lexes ts) (ht : t.standsAlone = true) :
    Lexes (t :: ts) := by
  have hvalid : t ≠ invalid := by
    rintro rfl
    cases ht
  have hnumber : ∀ n, t ≠ number n := by
    rintro n rfl
    cases ht
  intro rest hrest
  rw [List.flatMap_cons, List.append_assoc, ofChars_chars hvalid fun n h => absurd h (hnumber n),
    hts rest hrest, List.cons_append]

theorem Lexes.number (n : Numeral) : Lexes [number n] := by
  intro rest hrest
  rw [List.flatMap_singleton, ofChars_chars (by simp) fun _ _ => hrest]
  rfl

theorem Closes.nil : Closes [] := fun _ h => h

theorem Closes.of_head {t : Token} (ht : t = comma ∨ t = closeArray ∨ t = closeObject)
    (ts : List Token) : Closes (t :: ts) := by
  intro rest _ c cs h
  rcases ht with rfl | rfl | rfl <;>
    simp only [List.flatMap_cons, chars, List.cons_append, List.cons.injEq] at h <;>
    obtain ⟨rfl, -⟩ := h <;> decide

end Token

namespace Document

open Token

theorem closes_itemTokens (ds : List Document) : Closes (itemTokens ds) := by
  cases ds with
  | nil => exact Closes.nil
  | cons d ds =>
    rw [itemTokens, List.cons_append]
    exact Closes.of_head (.inl rfl) _

theorem closes_memberTokens (ms : List (Option String × Document)) :
    Closes (memberTokens ms) := by
  cases ms with
  | nil => exact Closes.nil
  | cons m ms =>
    rw [memberTokens, List.cons_append]
    exact Closes.of_head (.inl rfl) _

mutual

theorem lexes_tokens (d : Document) (h : d.isWhole = true) : Lexes d.tokens := by
  match d, h with
  | .null, _ | .bool _, _ | .text _, _ => exact Lexes.nil.cons rfl
  | .number n, _ => exact Lexes.number n
  | .array [], _ | .object [], _ =>
    exact (Lexes.nil.cons rfl).cons rfl
  | .array (d :: ds), h =>
    simp only [isWhole, areWhole, Bool.and_eq_true] at h
    rw [tokens]
    refine Lexes.append (Lexes.append ?_ (lexes_itemTokens ds h.2) (closes_itemTokens ds))
      (Lexes.nil.cons rfl) (Closes.of_head (by simp) [])
    exact (lexes_tokens d h.1).cons rfl
  | .object ((key, d) :: ms), h =>
    simp only [isWhole, membersWhole, Bool.and_eq_true] at h
    rw [tokens]
    refine Lexes.append (Lexes.append ?_ (lexes_memberTokens ms h.2) (closes_memberTokens ms))
      (Lexes.nil.cons rfl) (Closes.of_head (by simp) [])
    exact (((lexes_tokens d h.1).cons rfl).cons rfl).cons rfl

theorem lexes_itemTokens (ds : List Document) (h : areWhole ds = true) :
    Lexes (itemTokens ds) := by
  match ds, h with
  | [], _ => exact Lexes.nil
  | d :: ds, h =>
    simp only [areWhole, Bool.and_eq_true] at h
    rw [itemTokens]
    refine Lexes.append ?_ (lexes_itemTokens ds h.2) (closes_itemTokens ds)
    exact (lexes_tokens d h.1).cons rfl

theorem lexes_memberTokens (ms : List (Option String × Document)) (h : membersWhole ms = true) :
    Lexes (memberTokens ms) := by
  match ms, h with
  | [], _ => exact Lexes.nil
  | (key, d) :: ms, h =>
    simp only [membersWhole, Bool.and_eq_true] at h
    rw [memberTokens]
    refine Lexes.append ?_ (lexes_memberTokens ms h.2) (closes_memberTokens ms)
    exact (((lexes_tokens d h.1).cons rfl).cons rfl).cons rfl

end

theorem ofText_render {d : Document} (h : d.isWhole = true) : ofText d.render = (d, true) := by
  have hlex := lexes_tokens d h [] (by intro c cs hcs; cases hcs)
  rw [List.append_nil, Token.ofChars, List.append_nil] at hlex
  rw [ofText, render, String.toList_ofList, hlex, ofTokens_tokens h]

end Document

end RecordQuery.Json
