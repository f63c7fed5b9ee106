import RoadWeather.Number.Shortest

/-! # Doubles to a number of significant digits, and back -/

namespace RoadWeather.Number

def roundSignificant (m : Nat) (q : Int) (k : Nat) : Nat × Int :=
  let e := decimalExponent m q - k + 1
  let d := pickNearer m q (floorScaled m q (-e)) e
  if d = Nat.pow 10 k then (Nat.pow 10 (k - 1), e + 1) else (d, e)

def dropTrailingZeros (ds : List Char) : List Char := (ds.reverse.dropWhile (· = '0')).reverse

/-- A double with `k` significant digits (at least one), as `printf` writes it with `%.kg`. -/
def writeSignificant (x : Float) (k : Nat) : String :=
  let k := max k 1
  match classify x with
  | .nan => "nan"
  | .infinite neg => if neg then "-inf" else "inf"
  | .finite ⟨neg, m, q⟩ =>
    let sign := if neg then "-" else ""
    if m = 0 then sign ++ "0"
    else
      let (d, e) := roundSignificant m q k
      let ds := Nat.toDigits 10 d
      let x10 : Int := e + k - 1
      if -4 ≤ x10 ∧ x10 < k then
        if 0 ≤ x10 then
          let whole := ds.take (x10.toNat + 1)
          let frac := dropTrailingZeros (ds.drop (x10.toNat + 1))
          sign ++ String.ofList whole ++ (if frac.isEmpty then "" else "." ++ String.ofList frac)
        else
          let frac := dropTrailingZeros (List.replicate ((-x10).toNat - 1) '0' ++ ds)
          sign ++ "0." ++ String.ofList frac
      else
        let frac := dropTrailingZeros (ds.drop 1)
        let ex := toString x10.natAbs
        sign ++ String.ofList (ds.take 1) ++ (if frac.isEmpty then "" else "." ++ String.ofList frac) ++
          "e" ++ (if x10 < 0 then "-" else "+") ++ (if ex.length < 2 then "0" ++ ex else ex)

def binaryExponent (d : Nat) (e : Int) : Int :=
  let est : Int := (Nat.log2 d : Int) + Int.fdiv (e * 3321928) 1000000
  let down := fun (l : Int) => if compareScaled d 0 e 1 l 0 == .lt then l - 1 else l
  let up := fun (l : Int) => if compareScaled d 0 e 1 (l + 1) 0 != .lt then l + 1 else l
  up (up (up (down (down (down est)))))

def ofDecimal (neg : Bool) (d : Nat) (e : Int) : Float :=
  let sign : UInt64 := if neg then 0x8000000000000000 else 0
  if d = 0 then Float.ofBits sign
  else
    let q := max (binaryExponent d e - 52) (-1074)
    let (num, den) := scaledPair d 0 e 1 q 0
    let f := num / den
    let r := num % den
    let m := if 2 * r > den || (2 * r = den && f % 2 = 1) then f + 1 else f
    let (m, q) := if m = Nat.pow 2 53 then (Nat.pow 2 52, q + 1) else (m, q)
    if q + 52 > 1023 then Float.ofBits (sign ||| 0x7FF0000000000000)
    else if m < Nat.pow 2 52 then Float.ofBits (sign ||| (m.toUInt64))
    else Float.ofBits (sign ||| (((q + 1075).toNat * Nat.pow 2 52 + (m - Nat.pow 2 52)).toUInt64))

/-- Read a decimal `[-]digits[.digits][e[±]digits]`: its sign, digits and exponent. -/
def readDecimal (s : String) : Option (Bool × Nat × Int) :=
  let cs := s.toList
  let (neg, cs) := match cs with
    | '-' :: r => (true, r)
    | '+' :: r => (false, r)
    | r => (false, r)
  let whole := cs.takeWhile Char.isDigit
  let cs := cs.drop whole.length
  let (frac, cs) := match cs with
    | '.' :: r => (r.takeWhile Char.isDigit, r.dropWhile Char.isDigit)
    | r => ([], r)
  let digits := whole ++ frac
  let value := fun (ds : List Char) => ds.foldl (fun n c => 10 * n + (c.toNat - 48)) 0
  let ex : Option Int := match cs with
    | [] => some 0
    | c :: r =>
      if c = 'e' || c = 'E' then
        let (eneg, r) := match r with
          | '-' :: r' => (true, r')
          | '+' :: r' => (false, r')
          | r' => (false, r')
        if !r.isEmpty && r.all Char.isDigit then
          some (if eneg then -(value r : Int) else value r)
        else none
      else none
  if digits.isEmpty then none
  else ex.map fun x => (neg, value digits, x - frac.length)

end RoadWeather.Number
