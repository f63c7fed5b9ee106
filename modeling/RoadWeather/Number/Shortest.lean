import RoadWeather.Number.Dyadic

/-! # The shortest decimal that reads back -/

namespace RoadWeather.Number

def decimalExponent (m : Nat) (q : Int) : Int :=
  let est : Int := Int.fdiv ((q + (Nat.log2 m : Int)) * 30103) 100000
  let down := fun (e : Int) => if compareScaled m q 0 1 0 e == .lt then e - 1 else e
  let up := fun (e : Int) => if compareScaled m q 0 1 0 (e + 1) != .lt then e + 1 else e
  up (up (up (down (down (down est)))))

def readsBack (m : Nat) (q : Int) (d : Nat) (e : Int) : Bool :=
  let g := if m = Nat.pow 2 52 ∧ q > -1074 then 1 else 2
  let lo := compareScaled d 0 e (4 * m - g) (q - 2) 0
  let hi := compareScaled d 0 e (4 * m + 2) (q - 2) 0
  if m % 2 = 0 then lo != .lt && hi != .gt else lo == .gt && hi == .lt

def pickNearer (m : Nat) (q : Int) (f : Nat) (e : Int) : Nat :=
  match compareScaled (2 * m) q 0 (2 * f + 1) 0 e with
  | .lt => f
  | .gt => f + 1
  | .eq => if f % 2 = 0 then f else f + 1

def shortestFrom (m : Nat) (q : Int) (e10 : Int) : Nat → Nat → Nat × Int
  | 0, _ => (floorScaled m q (-(e10 - 16)), e10 - 16)
  | fuel + 1, k =>
    let e := e10 - (k : Int) + 1
    let f := floorScaled m q (-e)
    let lowOk := readsBack m q f e
    let highOk := readsBack m q (f + 1) e
    if lowOk && highOk then (pickNearer m q f e, e)
    else if lowOk then (f, e)
    else if highOk then (f + 1, e)
    else shortestFrom m q e10 fuel (k + 1)

def trimZeros : Nat → Nat × Int → Nat × Int
  | 0, p => p
  | fuel + 1, (d, e) => if d ≠ 0 ∧ d % 10 = 0 then trimZeros fuel (d / 10, e + 1) else (d, e)

def shortest (m : Nat) (q : Int) : Nat × Int :=
  trimZeros 20 (shortestFrom m q (decimalExponent m q) 17 1)

end RoadWeather.Number
