import RoadWeather.Time.Span

/-! # Points in time

Dates of the proleptic Gregorian calendar with a time of day to the microsecond. -/

namespace RoadWeather.Time

/-- A calendar date and time of day. -/
structure Instant where
  year : Nat
  month : Nat
  day : Nat
  hour : Nat := 0
  minute : Nat := 0
  second : Nat := 0
  micro : Nat := 0
  deriving DecidableEq, Repr, Inhabited

namespace Instant

def isLeap (y : Nat) : Bool := y % 4 = 0 && (y % 100 != 0 || y % 400 = 0)

def daysInMonth (y m : Nat) : Nat :=
  match m with
  | 1 | 3 | 5 | 7 | 8 | 10 | 12 => 31
  | 4 | 6 | 9 | 11 => 30
  | 2 => if isLeap y then 29 else 28
  | _ => 0

def daysBeforeMonth (y m : Nat) : Nat :=
  ((List.range (m - 1)).map fun i => daysInMonth y (i + 1)).foldr (· + ·) 0

def daysBeforeYear (y : Nat) : Nat :=
  let p := y - 1
  p * 365 + p / 4 - p / 100 + p / 400

def ordinal (t : Instant) : Nat := daysBeforeYear t.year + daysBeforeMonth t.year t.month + t.day

def valid (t : Instant) : Bool :=
  1 ≤ t.year && t.year ≤ 9999 && 1 ≤ t.month && t.month ≤ 12 && 1 ≤ t.day &&
    t.day ≤ daysInMonth t.year t.month && t.hour < 24 && t.minute < 60 && t.second < 60 &&
    t.micro < 1000000

def toMicros (t : Instant) : Int :=
  (((t.ordinal - 1 : Nat) * 86400 + t.hour * 3600 + t.minute * 60 + t.second : Nat) : Int) *
    1000000 + t.micro

def monthDay (leap : Bool) (n : Nat) : Nat × Nat :=
  let lens := [31, if leap then 29 else 28, 31, 30, 31, 30, 31, 31, 30, 31, 30, 31]
  let rec go : List Nat → Nat → Nat → Nat × Nat
    | [], m, n => (m, n + 1)
    | l :: ls, m, n => if n < l then (m, n + 1) else go ls (m + 1) (n - l)
  go lens 1 n

/-- Year, month and day of day number `ord` (0001-01-01 is 1). -/
def ofOrdinal (ord : Nat) : Nat × Nat × Nat :=
  let n := ord - 1
  let n400 := n / 146097
  let n := n % 146097
  let n100 := n / 36524
  let n := n % 36524
  let n4 := n / 1461
  let n := n % 1461
  let n1 := n / 365
  let n := n % 365
  let year := n400 * 400 + 1 + n100 * 100 + n4 * 4 + n1
  if n1 = 4 ∨ n100 = 4 then (year - 1, 12, 31)
  else
    let (m, d) := monthDay (isLeap year) n
    (year, m, d)

def ofMicros (us : Int) : Instant :=
  let u := us.toNat
  let secs := u / 1000000
  let days := secs / 86400
  let s := secs % 86400
  let (y, m, d) := ofOrdinal (days + 1)
  { year := y, month := m, day := d, hour := s / 3600, minute := s / 60 % 60, second := s % 60,
    micro := u % 1000000 }

def diff (a b : Instant) : Span := ⟨a.toMicros - b.toMicros⟩

def shift (t : Instant) (d : Span) : Instant := ofMicros (t.toMicros + d.micros)

instance : LT Instant := ⟨fun a b => a.toMicros < b.toMicros⟩
instance : LE Instant := ⟨fun a b => a.toMicros ≤ b.toMicros⟩
instance (a b : Instant) : Decidable (a < b) := inferInstanceAs (Decidable (a.toMicros < b.toMicros))
instance (a b : Instant) : Decidable (a ≤ b) := inferInstanceAs (Decidable (a.toMicros ≤ b.toMicros))

def pad (w : Nat) (n : Nat) : String :=
  let s := toString n
  String.ofList (List.replicate (w - s.length) '0') ++ s

def dateText (t : Instant) : String :=
  pad 4 t.year ++ "-" ++ pad 2 t.month ++ "-" ++ pad 2 t.day

def clockText (t : Instant) : String :=
  pad 2 t.hour ++ ":" ++ pad 2 t.minute ++ ":" ++ pad 2 t.second ++
    (if t.micro = 0 then "" else "." ++ pad 6 t.micro)

def iso (t : Instant) : String := t.dateText ++ "T" ++ t.clockText

def text (t : Instant) : String := t.dateText ++ " " ++ t.clockText

def sqlText (t : Instant) : String :=
  t.dateText ++ " " ++ pad 2 t.hour ++ ":" ++ pad 2 t.minute ++ ":" ++ pad 2 t.second

def dayFirst (t : Instant) : String := pad 2 t.day ++ "." ++ pad 2 t.month ++ "." ++ pad 4 t.year

def dayFirstClock (t : Instant) : String := t.dayFirst ++ " " ++ pad 2 t.hour ++ ":" ++ pad 2 t.minute

def atClock (t : Instant) (h m s : Nat) : Instant := { t with hour := h, minute := m, second := s }

example : (ofMicros (Instant.toMicros ⟨2018, 3, 31, 23, 59, 59, 5⟩)) = ⟨2018, 3, 31, 23, 59, 59, 5⟩ := by
  decide

/-! ## Reading the ISO form -/

def digitsValue (cs : List Char) : Option Nat :=
  if cs.isEmpty || !cs.all Char.isDigit then none
  else some (cs.foldl (fun n c => 10 * n + (c.toNat - 48)) 0)

def fractionMicros (cs : List Char) : Option Nat :=
  if cs.isEmpty || !cs.all Char.isDigit then none
  else digitsValue ((cs.take 6) ++ List.replicate (6 - cs.length) '0')

def readClock (cs : List Char) : Option (Nat × Nat × Nat × Nat) :=
  match cs with
  | [h1, h2] => do pure (← digitsValue [h1, h2], 0, 0, 0)
  | [h1, h2, ':', m1, m2] => do pure (← digitsValue [h1, h2], ← digitsValue [m1, m2], 0, 0)
  | h1 :: h2 :: ':' :: m1 :: m2 :: ':' :: s1 :: s2 :: rest => do
    let h ← digitsValue [h1, h2]
    let m ← digitsValue [m1, m2]
    let s ← digitsValue [s1, s2]
    match rest with
    | [] => pure (h, m, s, 0)
    | sep :: frac => if sep = '.' || sep = ',' then pure (h, m, s, ← fractionMicros frac) else none
  | _ => none

def ofIso? (s : String) : Option Instant := do
  match s.toList with
  | y1 :: y2 :: y3 :: y4 :: '-' :: m1 :: m2 :: '-' :: d1 :: d2 :: rest =>
    let y ← digitsValue [y1, y2, y3, y4]
    let mo ← digitsValue [m1, m2]
    let d ← digitsValue [d1, d2]
    let (h, mi, se, us) ← match rest with
      | [] => some (0, 0, 0, 0)
      | _ :: clock => readClock clock
    let t : Instant := ⟨y, mo, d, h, mi, se, us⟩
    if t.valid then some t else none
  | _ => none

example : (ofIso? "2018-02-01T00:00:00.5").map iso = some "2018-02-01T00:00:00.500000" := by decide

end Instant

end RoadWeather.Time
