import RoadWeather.Time.Instant
import RoadWeather.Text.Digit

/-! # Days written day first -/

namespace RoadWeather.Time

open RoadWeather.Text

def asciiIn (lo hi : Nat) (c : Char) : Option Nat :=
  if c.isDigit && lo ≤ c.toNat - 48 && c.toNat - 48 ≤ hi then some (c.toNat - 48) else none

/-- The ways the text can start with a day number, in the order they are tried. -/
def dayChoices : List Char → List (Nat × List Char)
  | cs =>
    let two : List (Nat × List Char) := match cs with
      | a :: b :: rest =>
        (match asciiIn 3 3 a, asciiIn 0 1 b with
          | some x, some y => [(10 * x + y, rest)]
          | _, _ => []) ++
        (match asciiIn 1 2 a, decimalValue? b with
          | some x, some y => [(10 * x + y, rest)]
          | _, _ => []) ++
        (match asciiIn 0 0 a, asciiIn 1 9 b with
          | some _, some y => [(y, rest)]
          | _, _ => [])
      | _ => []
    let one : List (Nat × List Char) := match cs with
      | a :: rest => (asciiIn 1 9 a).toList.map (·, rest)
      | [] => []
    let blank : List (Nat × List Char) := match cs with
      | ' ' :: b :: rest => (asciiIn 1 9 b).toList.map (·, rest)
      | _ => []
    two ++ one ++ blank

def monthChoices : List Char → List (Nat × List Char)
  | cs =>
    (match cs with
      | a :: b :: rest =>
        (match asciiIn 1 1 a, asciiIn 0 2 b with
          | some _, some y => [(10 + y, rest)]
          | _, _ => []) ++
        (match asciiIn 0 0 a, asciiIn 1 9 b with
          | some _, some y => [(y, rest)]
          | _, _ => [])
      | _ => []) ++
    (match cs with
      | a :: rest => (asciiIn 1 9 a).toList.map (·, rest)
      | [] => [])

def yearPrefix : List Char → Option (Nat × List Char)
  | a :: b :: c :: d :: rest => do
    let w ← decimalValue? a
    let x ← decimalValue? b
    let y ← decimalValue? c
    let z ← decimalValue? d
    some (1000 * w + 100 * x + 10 * y + z, rest)
  | _ => none

def dayMonthYear (cs : List Char) : Option ((Nat × Nat × Nat) × List Char) :=
  (dayChoices cs).firstM fun (d, r) =>
    match r with
    | '.' :: r => (monthChoices r).firstM fun (m, r) =>
      match r with
      | '.' :: r => (yearPrefix r).map fun (y, rest) => ((d, m, y), rest)
      | _ => none
    | _ => none

def readDay (s : String) : Option Instant :=
  match dayMonthYear s.toList with
  | some ((d, m, y), []) =>
    let t : Instant := { year := y, month := m, day := d }
    if 1 ≤ y && t.valid then some t else none
  | _ => none

end RoadWeather.Time
