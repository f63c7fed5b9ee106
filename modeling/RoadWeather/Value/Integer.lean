import RoadWeather.Value.Text
import RoadWeather.Text.Integer
import RoadWeather.Fault

/-! # Values as integers -/

namespace RoadWeather.Value

open RoadWeather.Number RoadWeather.Text

/-- The integer a value stands for. Unreadable text and a double that is not a number fail
with `badValue`, an infinite double with `overflow`, other kinds with `wrongKind`. -/
def toInteger : Value → Except Fault Int
  | .bool b => .ok (if b then 1 else 0)
  | .int n => .ok n
  | .float x =>
    match classify x with
    | .nan => .error ⟨.badValue, "cannot convert float NaN to integer"⟩
    | .infinite _ => .error ⟨.overflow, "cannot convert float infinity to integer"⟩
    | .finite ⟨neg, m, q⟩ =>
      let mag : Nat := if 0 ≤ q then m * Nat.pow 2 q.toNat else m / Nat.pow 2 (-q).toNat
      .ok (if neg then -(mag : Int) else mag)
  | .text s =>
    match readInteger s with
    | some n => .ok n
    | none => .error ⟨.badValue, "invalid literal for int() with base 10: " ++ quoteText s⟩
  | v => .error ⟨.wrongKind,
      "int() argument must be a string, a bytes-like object or a real number, not '" ++
        v.kindName ++ "'"⟩

end RoadWeather.Value
