import RecordQuery.Calendar.Instant
import RecordQuery.Number.Power
import RecordQuery.Text.Blank

/-!
# Layouts of dates and times

A layout is a list of items, such as the year, a dash and the month, and a text has the layout if
its items can be read off it one after another up to its end. Dates are read by one layout, instants
by the first of four that fits: with an offset from Coordinated Universal Time, without one and a
`T` or blanks between date and time, and as a bare date.
-/

namespace RecordQuery

/-- A numeric field of a date or a time of day. -/
inductive Layout.Field where
  | year | month | day | hour | minute | second
  deriving DecidableEq, Repr

/-- One item of a layout. -/
inductive Layout.Item where
  /-- Blanks, then a number of at most four digits for a year and two for another field; a year with
  a sign may have any number of digits. -/
  | loose (field : Layout.Field)
  /-- A number of just so many digits. -/
  | exact (field : Layout.Field) (width : Nat)
  /-- One of these characters. -/
  | oneOf (chars : List Char)
  /-- Any number of blanks. -/
  | blanks
  /-- Nothing, or a point and at least one digit; digits after the ninth are dropped. -/
  | fraction
  /-- The letter `Z`, or a sign, two digits of hours, a colon and two digits of minutes. -/
  | offset
  deriving DecidableEq, Repr

/-- A list of items. -/
abbrev Layout := List Layout.Item

/-- What has been read off a text: the value of each field, the nanoseconds, and the offset from
Coordinated Universal Time in minutes. -/
structure Layout.Reading where
  year : Int := 0
  month : Nat := 0
  day : Nat := 0
  hour : Nat := 0
  minute : Nat := 0
  second : Nat := 0
  nano : Nat := 0
  offset : Int := 0
  deriving DecidableEq, Repr

namespace Layout.Reading

/-- Sets a field other than the year. -/
def setNat (r : Reading) (field : Field) (n : Nat) : Reading :=
  match field with
  | .year => { r with year := n }
  | .month => { r with month := n }
  | .day => { r with day := n }
  | .hour => { r with hour := n }
  | .minute => { r with minute := n }
  | .second => { r with second := n }

/-- The date that was read, if there is one. -/
def date? (r : Reading) : Option Date := Date.make? r.year r.month r.day

/-- The instant that was read, in Coordinated Universal Time, if there is one. -/
def instant? (r : Reading) : Option Instant := do
  let t ← Instant.make? (← r.date?) r.hour r.minute r.second r.nano
  t.minusMinutes? r.offset

end Layout.Reading

namespace Layout

/-- A number of one to `limit` digits at the front of a text, and the rest. -/
def number? (limit : Nat) (cs : List Char) : Option (Nat × List Char) :=
  match Digits.scanAtMost limit cs with
  | ([], _) => none
  | (d :: ds, rest) => some (Digits.value (d :: ds), rest)

/-- A number of just `width` digits at the front of a text, and the rest. -/
def exactNumber? (width : Nat) (cs : List Char) : Option (Nat × List Char) :=
  let (ds, rest) := Digits.scanAtMost width cs
  if ds.length = width then some (Digits.value ds, rest) else none

/-- A year: of one to four digits, or of any number of digits after a sign. -/
def year? : List Char → Option (Int × List Char)
  | '-' :: cs => (number? cs.length cs).map fun (n, rest) => (-(n : Int), rest)
  | '+' :: cs => (number? cs.length cs).map fun (n, rest) => ((n : Int), rest)
  | cs => (number? 4 cs).map fun (n, rest) => ((n : Int), rest)

/-- The nanoseconds that digits after a point stand for. -/
def nanos (ds : List Digit) : Nat :=
  let kept := ds.take 9
  Digits.value kept * pow10 (9 - kept.length)

/-- A fraction of a second, if there is a point. -/
def fraction? : List Char → Option (Nat × List Char)
  | '.' :: cs =>
    match Digits.scan cs with
    | ([], _) => none
    | (d :: ds, rest) => some (nanos (d :: ds), rest)
  | cs => some (0, cs)

/-- Hours and minutes of an offset, in minutes. -/
def offsetMinutes? (cs : List Char) : Option (Nat × List Char) := do
  let (hours, cs) ← exactNumber? 2 cs
  match cs with
  | ':' :: cs =>
    let (minutes, cs) ← exactNumber? 2 cs
    if hours < 24 ∧ minutes < 60 then some (hours * 60 + minutes, cs) else none
  | _ => none

/-- An offset from Coordinated Universal Time, in minutes. The minus sign may be the one of ASCII or
U+2212. -/
def offset? : List Char → Option (Int × List Char)
  | [] => none
  | c :: cs =>
    if c = 'Z' ∨ c = 'z' then some (0, cs)
    else if c = '+' then (offsetMinutes? cs).map fun (n, rest) => ((n : Int), rest)
    else if c = '-' ∨ c = '\u2212' then (offsetMinutes? cs).map fun (n, rest) => (-(n : Int), rest)
    else none

/-- Reads one item off the front of a text. -/
def readItem? (item : Item) (r : Reading) (cs : List Char) : Option (Reading × List Char) :=
  match item with
  | .loose .year => (year? (Text.trimStart cs)).map fun (n, rest) => ({ r with year := n }, rest)
  | .loose field => (number? 2 (Text.trimStart cs)).map fun (n, rest) => (r.setNat field n, rest)
  | .exact field width => (exactNumber? width cs).map fun (n, rest) => (r.setNat field n, rest)
  | .oneOf chars =>
    match cs with
    | [] => none
    | c :: rest => if c ∈ chars then some (r, rest) else none
  | .blanks => some (r, Text.trimStart cs)
  | .fraction => (fraction? cs).map fun (n, rest) => ({ r with nano := n }, rest)
  | .offset => (offset? cs).map fun (n, rest) => ({ r with offset := n }, rest)

/-- Reads the items of a layout one after another. Nothing may follow the last. -/
def readFrom? : Layout → Reading → List Char → Option Reading
  | [], r, [] => some r
  | [], _, _ :: _ => none
  | item :: layout, r, cs => do
    let (r, rest) ← readItem? item r cs
    readFrom? layout r rest

/-- What a text of this layout holds. -/
def read? (layout : Layout) (s : String) : Option Reading := readFrom? layout {} s.toList

/-- Year, month and day with dashes between them. -/
def date : Layout := [.loose .year, .oneOf ['-'], .loose .month, .oneOf ['-'], .loose .day]

/-- Hours, minutes and seconds with colons between them, and a fraction. -/
def timeOfDay : Layout :=
  [.loose .hour, .oneOf [':'], .loose .minute, .oneOf [':'], .loose .second, .fraction]

/-- Date and time with a `T` between them. -/
def localTime : Layout := date ++ .oneOf ['T'] :: timeOfDay

/-- Date and time with blanks between them. -/
def spacedTime : Layout := date ++ .blanks :: timeOfDay

/-- Date, time and offset, each number of just as many digits as it needs. -/
def zonedTime : Layout :=
  [.exact .year 4, .oneOf ['-'], .exact .month 2, .oneOf ['-'], .exact .day 2,
    .oneOf ['T', 't', ' '], .exact .hour 2, .oneOf [':'], .exact .minute 2, .oneOf [':'],
    .exact .second 2, .fraction, .offset]

/-- The layouts of instants, in the order in which they are tried. -/
def instants : List Layout := [zonedTime, localTime, spacedTime, date]

end Layout

/-- The date that a text spells. -/
def Date.ofText? (s : String) : Option Date := (Layout.date.read? s).bind Layout.Reading.date?

/-- The instant that a text spells in one layout. -/
def Layout.instant? (layout : Layout) (s : String) : Option Instant :=
  (layout.read? s).bind Reading.instant?

/-- The instant that a text spells, in the first layout that gives one. -/
def Instant.ofText? (s : String) : Option Instant := Layout.instants.findSome? (·.instant? s)

end RecordQuery
