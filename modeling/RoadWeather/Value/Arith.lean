import RoadWeather.Value.Text
import RoadWeather.Fault

/-! # Arithmetic on values -/

namespace RoadWeather.Value

open RoadWeather.Time

def unsupported (op : String) (a b : Value) : Fault :=
  ⟨.wrongKind, "unsupported operand type(s) for " ++ op ++ ": '" ++ a.kindName ++ "' and '" ++
    b.kindName ++ "'"⟩

/-- `a - b`. -/
def minus (a b : Value) : Except Fault Value :=
  match a, b with
  | .time x, .time y => .ok (.span (x.diff y))
  | .time x, .span d => .ok (.time (x.shift (-d)))
  | .span x, .span y => .ok (.span (x - y))
  | .missingTime, .span _ | .missingTime, .time _ | .missingTime, .missingTime
  | .span _, .missingTime | .time _, .missingTime => .ok .missingTime
  | _, _ =>
    match a.integer?, b.integer? with
    | some x, some y => .ok (.int (x - y))
    | _, _ =>
      match a.number?, b.number? with
      | some x, some y =>
        if (a matches .float _) || (b matches .float _) then .ok (.float (x - y))
        else .error (unsupported "-" a b)
      | _, _ => .error (unsupported "-" a b)

/-- `a + b`. -/
def plus (a b : Value) : Except Fault Value :=
  match a, b with
  | .time x, .span d => .ok (.time (x.shift d))
  | .span d, .time x => .ok (.time (x.shift d))
  | .span x, .span y => .ok (.span (x + y))
  | .text x, .text y => .ok (.text (x ++ y))
  | _, _ =>
    match a.integer?, b.integer? with
    | some x, some y => .ok (.int (x + y))
    | _, _ =>
      match a.number?, b.number? with
      | some x, some y =>
        if (a matches .float _) || (b matches .float _) then .ok (.float (x + y))
        else .error (unsupported "+" a b)
      | _, _ => .error (unsupported "+" a b)

def spanSeconds (d : Span) : Float :=
  Float.ofInt (d.days * 86400 + d.seconds) + Float.ofNat d.microseconds / 1000000.0

def totalSeconds (v : Value) : Except Fault Float :=
  match v with
  | .span d => .ok (spanSeconds d)
  | .missingTime => .ok (0.0 / 0.0)
  | _ => .error ⟨.noAttribute, "'" ++ v.kindName ++ "' object has no attribute 'total_seconds'"⟩

def order? (a b : Value) : Option Ordering :=
  match a, b with
  | .time x, .time y => some (compare x.toMicros y.toMicros)
  | .span x, .span y => some (compare x.micros y.micros)
  | .text x, .text y => some (compare x y)
  | _, _ =>
    match a.integer?, b.integer? with
    | some x, some y => some (compare x y)
    | _, _ =>
      match a.number?, b.number? with
      | some x, some y => some (if x < y then .lt else if y < x then .gt else .eq)
      | _, _ => none

end RoadWeather.Value
