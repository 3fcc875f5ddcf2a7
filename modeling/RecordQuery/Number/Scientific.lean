import RecordQuery.Number.Integer

/-!
# Numbers in scientific notation

`coefficient · 10 ^ exponent` with a sign: what the text of a floating-point number spells before
it is rounded to a format, and what the shortest text of such a number is made of.
-/

namespace RecordQuery

/-- The number `± coefficient · 10 ^ exponent`. Zero has a sign too. -/
structure Scientific where
  negative : Bool
  coefficient : Nat
  exponent : Int
  deriving DecidableEq

namespace Scientific

/-- The power of ten at the end of a text: nothing, or a letter `e`, an optional sign and digits. -/
def exponentOf? : List Char → Option Int
  | [] => some 0
  | c :: cs =>
    if c = 'e' ∨ c = 'E' then
      match Digits.scan (splitSign cs).2 with
      | (d :: ds, []) => some (signed (splitSign cs).1 (Digits.value (d :: ds)))
      | _ => none
    else none

/-- The fraction digits at the front of a text, and what follows them. -/
def fractionOf : List Char → List Digit × List Char
  | '.' :: cs => Digits.scan cs
  | cs => ([], cs)

/-- The number that a text spells: an optional sign, digits with at most one point among them, and
an optional power of ten. -/
def ofText? (s : String) : Option Scientific :=
  let (negative, cs) := splitSign s.toList
  let (whole, cs) := Digits.scan cs
  let (fraction, cs) := fractionOf cs
  if whole = [] ∧ fraction = [] then none
  else
    (exponentOf? cs).map fun e =>
      ⟨negative, Digits.value (whole ++ fraction), e - fraction.length⟩

/-- The number in positional notation, without a fraction if it is whole. -/
def positional (x : Scientific) : String :=
  let ds := Digits.ofNat x.coefficient
  let places := (-x.exponent).toNat
  let whole := ds.length - places
  String.ofList ((if x.negative then ['-'] else []) ++
    if x.exponent ≥ 0 then Digits.text (ds ++ List.replicate x.exponent.toNat Digit.zero)
    else if whole = 0 then
      ['0', '.'] ++ Digits.text (List.replicate (places - ds.length) Digit.zero ++ ds)
    else Digits.text (ds.take whole) ++ '.' :: Digits.text (ds.drop whole))

end Scientific

end RecordQuery
