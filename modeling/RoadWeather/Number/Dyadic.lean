/-! # Finite doubles as exact numbers -/

namespace RoadWeather.Number

/-- The exact value `± mant · 2^exp` of a finite double. -/
structure Dyadic where
  neg : Bool
  mant : Nat
  exp : Int
  deriving Repr, DecidableEq

/-- What a double holds: a finite value, an infinity, or not a number. -/
inductive FloatKind where
  | finite (d : Dyadic)
  | infinite (neg : Bool)
  | nan
  deriving Repr, DecidableEq

def classify (x : Float) : FloatKind :=
  let bits : Nat := x.toBits.toNat
  let neg : Bool := bits / Nat.pow 2 63 % 2 = 1
  let e : Nat := bits / Nat.pow 2 52 % Nat.pow 2 11
  let frac : Nat := bits % Nat.pow 2 52
  if e = 2047 then (if frac = 0 then .infinite neg else .nan)
  else if e = 0 then .finite ⟨neg, frac, -1074⟩
  else .finite ⟨neg, frac + Nat.pow 2 52, (e : Int) - 1075⟩

def scaledPair (a : Nat) (x y : Int) (b : Nat) (x' y' : Int) : Nat × Nat :=
  let x0 := min x x'
  let y0 := min y y'
  (a * Nat.pow 2 (x - x0).toNat * Nat.pow 10 (y - y0).toNat,
    b * Nat.pow 2 (x' - x0).toNat * Nat.pow 10 (y' - y0).toNat)

def compareScaled (a : Nat) (x y : Int) (b : Nat) (x' y' : Int) : Ordering :=
  let p := scaledPair a x y b x' y'
  compare p.1 p.2

def floorScaled (a : Nat) (x y : Int) : Nat :=
  let p := scaledPair a x y 1 0 0
  p.1 / p.2

end RoadWeather.Number

namespace RoadWeather.Number

def Dyadic.toInt? (d : Dyadic) : Option Int :=
  let mag : Option Nat :=
    if 0 ≤ d.exp then some (d.mant * Nat.pow 2 d.exp.toNat)
    else if d.mant % Nat.pow 2 (-d.exp).toNat = 0 then some (d.mant / Nat.pow 2 (-d.exp).toNat) else none
  mag.map fun n => if d.neg then -(n : Int) else n

def wholeValue? (x : Float) : Option Int :=
  match classify x with
  | .finite d => d.toInt?
  | _ => none

end RoadWeather.Number
