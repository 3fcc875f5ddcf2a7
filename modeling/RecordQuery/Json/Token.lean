import RecordQuery.Json.Escape
import RecordQuery.Json.Numeral

/-!
# The tokens of a JSON text

A JSON text is read as a list of tokens, with blanks between them left out. From the first character
that belongs to no token on, the text is one invalid token.
-/

namespace RecordQuery.Json

/-- A token of a JSON text. A string with a lone surrogate is a token without content. -/
inductive Token where
  | openArray | closeArray | openObject | closeObject | comma | colon
  | null
  | bool (b : Bool)
  | number (n : Numeral)
  | text (content : Option String)
  | invalid
  deriving DecidableEq, Repr

namespace Token

/-- Whether a character may stand between tokens. -/
def isSpace (c : Char) : Bool := c = ' ' || c = '\n' || c = '\t' || c = '\r'

/-- The token that a text starting with a character other than a space has at its front, and what
follows it. -/
def scan? (c : Char) (cs : List Char) : Option (Token × List Char) :=
  match c, cs with
  | '[', cs => some (openArray, cs)
  | ']', cs => some (closeArray, cs)
  | '{', cs => some (openObject, cs)
  | '}', cs => some (closeObject, cs)
  | ',', cs => some (comma, cs)
  | ':', cs => some (colon, cs)
  | '"', cs => (Escape.scan? cs).map fun (s, rest) => (text s, rest)
  | 'n', 'u' :: 'l' :: 'l' :: cs => some (null, cs)
  | 't', 'r' :: 'u' :: 'e' :: cs => some (bool true, cs)
  | 'f', 'a' :: 'l' :: 's' :: 'e' :: cs => some (bool false, cs)
  | c, cs => (Numeral.scan? (c :: cs)).map fun (n, rest) => (number n, rest)

theorem length_scan? {c : Char} {cs rest : List Char} {t : Token}
    (h : scan? c cs = some (t, rest)) : rest.length ≤ cs.length := by
  unfold scan? at h
  split at h
  · cases h; simp
  · cases h; simp
  · cases h; simp
  · cases h; simp
  · cases h; simp
  · cases h; simp
  · obtain ⟨⟨s, r⟩, hs, heq⟩ := Option.map_eq_some_iff.1 h
    cases heq
    exact Nat.le_of_lt (Escape.length_scan? hs)
  · cases h; simp; omega
  · cases h; simp; omega
  · cases h; simp; omega
  · obtain ⟨⟨n, r⟩, hn, heq⟩ := Option.map_eq_some_iff.1 h
    cases heq
    exact Nat.le_of_lt_succ (Numeral.length_scan? hn)

/-- The tokens of a text. -/
def ofChars : List Char → List Token
  | [] => []
  | c :: cs =>
    if isSpace c then ofChars cs
    else
      match h : scan? c cs with
      | none => [invalid]
      | some (t, rest) =>
        have := length_scan? h
        t :: ofChars rest
termination_by cs => cs.length

/-- The text of a token. A string without content is written as one lone surrogate. -/
def chars : Token → List Char
  | openArray => ['[']
  | closeArray => [']']
  | openObject => ['{']
  | closeObject => ['}']
  | comma => [',']
  | colon => [':']
  | null => ['n', 'u', 'l', 'l']
  | bool true => ['t', 'r', 'u', 'e']
  | bool false => ['f', 'a', 'l', 's', 'e']
  | number n => n.chars
  | text (some s) => '"' :: Escape.chars s
  | text none => ['"', '\\', 'u', 'd', '8', '0', '0', '"']
  | invalid => []

end Token

end RecordQuery.Json
