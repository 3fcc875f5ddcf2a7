/-!
# JSON strings

What stands between the quotes of a JSON string. An escape `\uXXXX` gives one unit of UTF-16; a pair
of surrogate units gives one character, and a text with a lone one has no content, although its end
can be told.

Results:
* `scan?_chars`: a string is read back from its own text, up to what follows it.
-/

namespace RecordQuery.Json.Escape

/-- One piece of a string: a character, or a unit of UTF-16 given by an escape. -/
inductive Piece where
  | plain (c : Char)
  | unit (code : Nat)
  deriving DecidableEq, Repr

/-! ## Reading -/

/-- The value of a hexadecimal digit. -/
def hexDigit? (c : Char) : Option Nat :=
  if '0' ≤ c ∧ c ≤ '9' then some (c.toNat - 48)
  else if 'a' ≤ c ∧ c ≤ 'f' then some (c.toNat - 87)
  else if 'A' ≤ c ∧ c ≤ 'F' then some (c.toNat - 55)
  else none

/-- The value of four hexadecimal digits. -/
def hexValue? (a b c d : Char) : Option Nat := do
  some (4096 * (← hexDigit? a) + 256 * (← hexDigit? b) + 16 * (← hexDigit? c) + (← hexDigit? d))

/-- The character that a short escape stands for. -/
def short? (c : Char) : Option Char :=
  match c with
  | '"' => some '"'
  | '\\' => some '\\'
  | '/' => some '/'
  | 'b' => some '\x08'
  | 'f' => some '\x0c'
  | 'n' => some '\n'
  | 'r' => some '\r'
  | 't' => some '\t'
  | _ => none

/-- A piece in front of the pieces that follow it. -/
def push (p : Option Piece) (more : Option (List Piece × List Char)) :
    Option (List Piece × List Char) :=
  p.bind fun p => more.map fun (ps, rest) => (p :: ps, rest)

/-- The pieces of a string up to its closing quote, and what follows the quote. A control character
must be escaped. -/
def pieces? : List Char → Option (List Piece × List Char)
  | [] => none
  | '"' :: cs => some ([], cs)
  | '\\' :: 'u' :: a :: b :: c :: d :: cs => push ((hexValue? a b c d).map .unit) (pieces? cs)
  | '\\' :: c :: cs => push ((short? c).map .plain) (pieces? cs)
  | c :: cs => if c = '\\' ∨ c.toNat < 0x20 then none else push (some (.plain c)) (pieces? cs)

/-- The text that pieces make up, unless there is a lone surrogate among them. -/
def content? : List Piece → Option (List Char)
  | [] => some []
  | .plain c :: ps => (content? ps).map (c :: ·)
  | .unit code :: ps =>
    if code < 0xD800 ∨ 0xE000 ≤ code then (content? ps).map (Char.ofNat code :: ·)
    else if 0xDC00 ≤ code then none
    else
      match ps with
      | .unit low :: ps =>
        if 0xDC00 ≤ low ∧ low < 0xE000 then
          (content? ps).map (Char.ofNat (0x10000 + (code - 0xD800) * 0x400 + (low - 0xDC00)) :: ·)
        else none
      | _ => none

/-- The content of a string up to its closing quote, if it has one, and what follows the quote. -/
def scan? (cs : List Char) : Option (Option String × List Char) :=
  (pieces? cs).map fun (ps, rest) => ((content? ps).map String.ofList, rest)

/-! ## Writing -/

/-- A hexadecimal digit. -/
def hexChar (n : Nat) : Char := if n < 10 then Char.ofNat (48 + n) else Char.ofNat (87 + n)

/-- A character as it is written in a string: the quote, the backslash and the controls are escaped,
a control without a short escape by its code point. -/
def escapedChar (c : Char) : List Char :=
  if c = '"' then ['\\', '"']
  else if c = '\\' then ['\\', '\\']
  else if c = '\x08' then ['\\', 'b']
  else if c = '\x0c' then ['\\', 'f']
  else if c = '\n' then ['\\', 'n']
  else if c = '\r' then ['\\', 'r']
  else if c = '\t' then ['\\', 't']
  else if c.toNat < 0x20 then
    ['\\', 'u', '0', '0', hexChar (c.toNat / 16), hexChar (c.toNat % 16)]
  else [c]

/-- The text of a string without its opening quote: the characters, escaped, and the closing
quote. -/
def chars (s : String) : List Char := s.toList.flatMap escapedChar ++ ['"']

/-! ## Reading back -/

/-- The piece that a written character is read as. -/
def pieceOf (c : Char) : Piece :=
  if c.toNat < 0x20 ∧ c ≠ '\x08' ∧ c ≠ '\x0c' ∧ c ≠ '\n' ∧ c ≠ '\r' ∧ c ≠ '\t' then .unit c.toNat
  else .plain c

theorem pieces?_plain {c : Char} (hq : c ≠ '"') (hb : c ≠ '\\') (hc : ¬c.toNat < 0x20)
    (cs : List Char) : pieces? (c :: cs) = push (some (.plain c)) (pieces? cs) := by
  rw [pieces?.eq_5 _ _ (by simpa using hq) (by simp [hb]) (by simp [hb]),
    if_neg (by simp [hb, hc])]

theorem hexDigit?_hexChar : ∀ n, n < 16 → hexDigit? (hexChar n) = some n := by decide

theorem pieces?_escapedChar (c : Char) (cs : List Char) :
    pieces? (escapedChar c ++ cs) = push (some (pieceOf c)) (pieces? cs) := by
  unfold escapedChar pieceOf
  split
  · subst_vars; simp [pieces?, short?]
  split
  · subst_vars; simp [pieces?, short?]
  split
  · subst_vars; simp [pieces?, short?]
  split
  · subst_vars; simp [pieces?, short?]
  split
  · subst_vars; simp [pieces?, short?]
  split
  · subst_vars; simp [pieces?, short?]
  split
  · subst_vars; simp [pieces?, short?]
  split
  · next hc =>
    have h0 : hexDigit? '0' = some 0 := by decide
    have h1 := hexDigit?_hexChar (c.toNat / 16) (by omega)
    have h2 := hexDigit?_hexChar (c.toNat % 16) (by omega)
    have hsum : 16 * (c.toNat / 16) + c.toNat % 16 = c.toNat := by omega
    simp_all [pieces?, hexValue?]
  · next hq hb _ _ _ _ _ hc => simp [pieces?_plain hq hb hc, hc]

theorem pieces?_chars (s : String) (rest : List Char) :
    pieces? (chars s ++ rest) = some (s.toList.map pieceOf, rest) := by
  rw [chars, List.append_assoc]
  induction s.toList with
  | nil => rfl
  | cons c cs ih =>
    rw [List.flatMap_cons, List.append_assoc, pieces?_escapedChar, ih]
    rfl

theorem content?_pieceOf (cs : List Char) : content? (cs.map pieceOf) = some cs := by
  induction cs with
  | nil => rfl
  | cons c cs ih =>
    rw [List.map_cons]
    have hc : pieceOf c = .unit c.toNat ∧ c.toNat < 0x20 ∨ pieceOf c = .plain c := by
      unfold pieceOf
      split
      · next h => exact .inl ⟨rfl, h.1⟩
      · exact .inr rfl
    rcases hc with ⟨hc, hlt⟩ | hc
    · rw [hc, content?.eq_def]
      simp only
      rw [if_pos (by omega), ih, Char.ofNat_toNat]
      rfl
    · rw [hc, content?, ih]
      rfl

theorem scan?_chars (s : String) (rest : List Char) :
    scan? (chars s ++ rest) = some (some s, rest) := by
  simp [scan?, pieces?_chars, content?_pieceOf, String.ofList_toList]

theorem exists_of_push {p : Option Piece} {more : Option (List Piece × List Char)}
    {ps : List Piece} {rest : List Char} (h : push p more = some (ps, rest)) :
    ∃ qs, more = some (qs, rest) := by
  obtain ⟨_, _, hq⟩ := Option.bind_eq_some_iff.1 h
  obtain ⟨⟨qs, _⟩, hm, heq⟩ := Option.map_eq_some_iff.1 hq
  cases heq
  exact ⟨qs, hm⟩

theorem length_pieces? {cs rest : List Char} {ps : List Piece} (h : pieces? cs = some (ps, rest)) :
    rest.length < cs.length := by
  fun_induction pieces? cs generalizing ps with
  | case1 => simp at h
  | case2 cs => simp at h; obtain ⟨-, rfl⟩ := h; simp
  | case3 a b c d cs ih =>
    obtain ⟨_, hr⟩ := exists_of_push h
    have := ih hr
    simp only [List.length_cons]; omega
  | case4 c cs _ ih =>
    obtain ⟨_, hr⟩ := exists_of_push h
    have := ih hr
    simp only [List.length_cons]; omega
  | case5 => simp at h
  | case6 c cs _ _ _ hc ih =>
    obtain ⟨_, hr⟩ := exists_of_push h
    have := ih hr
    simp only [List.length_cons]; omega

theorem length_scan? {cs rest : List Char} {s : Option String} (h : scan? cs = some (s, rest)) :
    rest.length < cs.length := by
  obtain ⟨⟨ps, r⟩, hp, hr⟩ := Option.map_eq_some_iff.1 h
  cases hr
  exact length_pieces? hp

end RecordQuery.Json.Escape
